import Zeeder.Foundation.Reader
import Zeeder.Health.Connection

/-! # What a probe reads

A probe takes the text of a response apart: the status line, the headers up to the empty line, and a
body of as many bytes as `Content-Length` announces. The body of a readiness response has one line per
zone, from which the probe reads the network, its servable peers and the verdict.

* **`decodeResponse_httpResponse`** — a response is decoded to the parts it was formatted from.
* **`readinessReport_readinessResponse`** — so the probe learns the total of every zone, in order, and
  which zones are ready. -/

namespace Zeeder.Health

open Crawl Foundation

/-! ## Responses -/

/-- The value of the first header with a name. -/
def headerValue? (name : String) (headers : List (List Char)) : Option (List Char) :=
  headers.findSome? (readLiteral (name ++ ": ").toList)

/-- Take a response apart; its body must have the announced length. -/
def decodeResponse (text : List Char) : Option HttpReply := do
  let (statusLine, rest) ← readLine text
  let (status, reason) ← readDecimal (← readLiteral "HTTP/1.1 ".toList statusLine)
  let reason ← readLiteral " ".toList reason
  let (headers, body) ← readLines text.length rest
  let (length, _) ← readDecimal (← headerValue? "Content-Length" headers)
  if (String.ofList body).utf8ByteSize = length then
    some ⟨status, String.ofList reason, String.ofList body⟩
  else none

/-- The header lines of every response. -/
def responseHeaders (body : String) : List (List Char) :=
  ["Content-Type: text/plain; charset=utf-8".toList,
    "Content-Length: ".toList ++ body.utf8ByteSize.repr.toList, "Connection: close".toList]

theorem responseHeaders_line (body : String) :
    ∀ line ∈ responseHeaders body, line ≠ [] ∧ '\n' ∉ line := by
  have hlength : '\n' ∉ "Content-Length: ".toList ++ body.utf8ByteSize.repr.toList := by
    rw [List.mem_append, not_or]
    exact ⟨by decide, not_mem_repr (by decide) _⟩
  simp only [responseHeaders, List.forall_mem_cons, List.not_mem_nil, false_implies, implies_true,
    and_true]
  exact ⟨⟨by decide, by decide⟩, ⟨List.append_ne_nil_of_left_ne_nil (by decide) _, hlength⟩,
    by decide, by decide⟩

/-- The header that announces the body. -/
theorem headerValue?_responseHeaders (body : String) :
    headerValue? "Content-Length" (responseHeaders body) = some body.utf8ByteSize.repr.toList := by
  have hname : ("Content-Length" ++ ": " : String).toList = "Content-Length: ".toList := by
    decide +kernel
  have htype : readLiteral "Content-Length: ".toList "Content-Type: text/plain; charset=utf-8".toList
      = none := by decide +kernel
  rw [headerValue?, hname, responseHeaders, List.findSome?_cons, htype]
  dsimp only
  rw [List.findSome?_cons, readLiteral_append]

/-- A response is its status line, its header lines, an empty line and its body. -/
theorem toList_httpResponse (status : ℕ) (reason body : String) :
    (httpResponse status reason body).toList
      = ("HTTP/1.1 ".toList ++ (status.repr.toList ++ (" ".toList ++ reason.toList))) ++ crlf
        ++ ((responseHeaders body).flatMap (· ++ crlf) ++ crlf ++ body.toList) := by
  have hcrlf : ("\r\n" : String).toList = crlf := by decide +kernel
  have htype : ("Content-Type: text/plain; charset=utf-8\r\n" : String).toList
      = "Content-Type: text/plain; charset=utf-8".toList ++ crlf := by decide +kernel
  have hclose : ("Connection: close\r\n" : String).toList = "Connection: close".toList ++ crlf := by
    decide +kernel
  have hrepr (n : ℕ) : (toString n).toList = n.repr.toList := rfl
  generalize htext : (httpResponse status reason body).toList = text
  unfold httpResponse at htext
  simp only [String.toList_append, hcrlf, htype, hclose, hrepr, List.append_assoc] at htext
  rw [← htext]
  simp only [responseHeaders, List.flatMap_cons, List.flatMap_nil, List.append_assoc,
    List.nil_append]

/-- **A response is decoded to the parts it was formatted from**, whatever its body. -/
theorem decodeResponse_httpResponse (status : ℕ) {reason : String} (hreason : '\n' ∉ reason.toList)
    (body : String) :
    decodeResponse (httpResponse status reason body).toList = some ⟨status, reason, body⟩ := by
  have hline : '\n' ∉ "HTTP/1.1 ".toList ++ (status.repr.toList ++ (" ".toList ++ reason.toList)) := by
    simp only [List.mem_append, not_or]
    exact ⟨by decide, not_mem_repr (by decide) status, by decide, hreason⟩
  have hfuel : (responseHeaders body).length < (httpResponse status reason body).toList.length := by
    rw [toList_httpResponse]
    simp [responseHeaders, crlf]
  have hstatus : readDecimal (status.repr.toList ++ (" ".toList ++ reason.toList))
      = some (status, " ".toList ++ reason.toList) :=
    readDecimal_append status fun c hc => by
      rw [← Option.some.inj hc]
      decide
  have hlength : readDecimal body.utf8ByteSize.repr.toList = some (body.utf8ByteSize, []) := by
    have hread : readDecimal (body.utf8ByteSize.repr.toList ++ []) = some (body.utf8ByteSize, []) :=
      readDecimal_append body.utf8ByteSize (by simp)
    rwa [List.append_nil] at hread
  have hlines := readLines_append (responseHeaders_line body) body.toList hfuel
  generalize hn : (httpResponse status reason body).toList.length = fuel at hlines
  unfold decodeResponse
  rw [hn, toList_httpResponse, readLine_append hline]
  simp only [Option.bind_eq_bind, Option.bind_some, readLiteral_append, hstatus, hlines,
    headerValue?_responseHeaders, hlength, String.ofList_toList, if_true]

/-! ## Readiness reports -/

/-- What a line of a readiness response says about a zone. -/
structure ZoneReport where
  /-- The zone's network. -/
  network : ZcashNetwork
  /-- Its servable peers. -/
  servable : ℕ
  /-- Whether they reach the threshold. -/
  ready : Bool
  deriving DecidableEq, Repr

/-- The network with a label. -/
def networkOfLabel? (label : List Char) : Option ZcashNetwork :=
  [ZcashNetwork.mainnet, ZcashNetwork.testnet].find? fun network => network.label.toList == label

/-- Read one line. -/
def zoneReport? (line : List Char) : Option ZoneReport := do
  let (label, rest) ← readUntil ':' line
  let network ← networkOfLabel? label
  let (servable, rest) ← readDecimal (← readLiteral " ".toList rest)
  let state ← readLiteral " servable peers (".toList rest
  if state = "ready)".toList then some ⟨network, servable, true⟩
  else if state = "not ready)".toList then some ⟨network, servable, false⟩
  else none

/-- What a readiness response says. -/
structure ReadinessReport where
  /-- The status. -/
  status : ℕ
  /-- The zones, in order. -/
  zones : List ZoneReport
  deriving DecidableEq, Repr

/-- Read a readiness response: every line of its body but what follows the last newline. -/
def readinessReport? (text : List Char) : Option ReadinessReport := do
  let reply ← decodeResponse text
  let zones ← (bodyLines reply.body).dropLast.mapM zoneReport?
  some ⟨reply.status, zones⟩

section Report

variable {feeds : Receiver → ServablePeers} {readyThreshold : ℕ}

@[simp] theorem networkOfLabel?_label (network : ZcashNetwork) :
    networkOfLabel? network.label.toList = some network := by
  cases network <;> decide +kernel

variable (feeds readyThreshold) in
/-- What there is to say about a zone. -/
def zoneReport (zone : ZoneReadiness) : ZoneReport :=
  ⟨zone.1, (feeds zone.2).total, decide (readyThreshold ≤ (feeds zone.2).total)⟩

/-- **A zone's line says this.** -/
theorem zoneReport?_readinessLine (zone : ZoneReadiness) :
    zoneReport? (readinessLine zone.1 (feeds zone.2).total
        (readinessWord feeds readyThreshold zone)).toList
      = some (zoneReport feeds readyThreshold zone) := by
  have hcolon : (": " : String).toList = ':' :: " ".toList := by decide +kernel
  have hlabel : ':' ∉ zone.1.label.toList := by cases zone.1 <;> decide
  have hcount (rest : List Char) : readDecimal ((toString (feeds zone.2).total).toList
      ++ (" servable peers (".toList ++ rest))
        = some ((feeds zone.2).total, " servable peers (".toList ++ rest) :=
    readDecimal_append _ fun c hc => by
      rw [← Option.some.inj hc]
      decide
  have hready : ("ready" : String).toList ++ (")" : String).toList = "ready)".toList := by
    decide +kernel
  have hnot : ("not ready" : String).toList ++ (")" : String).toList = "not ready)".toList := by
    decide +kernel
  have hne : ("not ready)" : String).toList ≠ "ready)".toList := by decide +kernel
  unfold zoneReport?
  simp only [readinessLine, String.toList_append, hcolon, List.append_assoc, List.cons_append,
    readUntil_append hlabel, Option.bind_eq_bind, Option.bind_some, networkOfLabel?_label,
    readLiteral_append, hcount]
  unfold zoneReport readinessWord
  by_cases h : readyThreshold ≤ (feeds zone.2).total
  · rw [if_pos h, hready, if_pos rfl, decide_eq_true h]
  · rw [if_neg h, hnot, if_neg hne, if_pos rfl, decide_eq_false h]

/-- **A probe reads back every zone's total**, in order, whatever the feeds, the threshold and the
zones. -/
theorem readinessReport_readinessResponse (zones : List ZoneReadiness) :
    readinessReport? (readinessResponse feeds readyThreshold zones).toList
      = some ⟨if ∀ zone ∈ zones, readyThreshold ≤ (feeds zone.2).total then 200 else 503,
          zones.map (zoneReport feeds readyThreshold)⟩ := by
  have hreason : '\n' ∉ (readinessReply feeds readyThreshold zones).reason.toList := by
    unfold readinessReply
    dsimp only
    split
    · exact (by decide : '\n' ∉ "OK".toList)
    · exact (by decide : '\n' ∉ "Service Unavailable".toList)
  have hdecoded : decodeResponse (readinessResponse feeds readyThreshold zones).toList
      = some (readinessReply feeds readyThreshold zones) :=
    decodeResponse_httpResponse _ hreason _
  have hlines : (zones.map fun zone => (readinessLine zone.1 (feeds zone.2).total
      (readinessWord feeds readyThreshold zone)).toList).mapM zoneReport?
        = some (zones.map (zoneReport feeds readyThreshold)) := by
    have hread : (zoneReport? ∘ fun zone : ZoneReadiness => (readinessLine zone.1
        (feeds zone.2).total (readinessWord feeds readyThreshold zone)).toList)
          = fun zone => some (zoneReport feeds readyThreshold zone) :=
      funext zoneReport?_readinessLine
    rw [List.mapM_map, hread]
    exact List.mapM_pure
  rw [readinessReport?, hdecoded]
  simp only [Option.bind_eq_bind, Option.bind_some, bodyLines_readinessReply,
    List.dropLast_concat, hlines, status_readinessReply]

end Report

end Zeeder.Health
