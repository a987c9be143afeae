import Zeeder.Foundation.Utf8
import Zeeder.Health.Readiness

/-! # Serving one health connection

A connection is served from one read: what has arrived by then, 1024 bytes of it at most, is decoded,
the path of its request line chooses the response, and the response is written and flushed. Each of
the three operations has its own timeout.

A stream delivers a request in segments of any length, and one read returns the first of them only.
So the response depends on where the first segment ends.

* **`parseRequestPath_request`** — the path that is found in what a first segment holds of a request.
* **`segmentation_invisible_iff`** — the response is the one to the whole request exactly when the
  first segment holds the whole path, or `/` of `/ready`, or no route of a path that is none. -/

namespace Zeeder.Health

open Crawl Foundation

/-! ## The connection -/

/-- The most request bytes read before answering. -/
def maxRequestBytes : ℕ := 1024

/-- The error kinds that serving a connection tells apart. -/
inductive ErrorKind where
  /-- An operation timed out. -/
  | timedOut
  /-- Any other kind. -/
  | other
  deriving DecidableEq, Repr

/-- An error of the connection. -/
structure ConnectionError where
  /-- Its kind. -/
  kind : ErrorKind
  /-- Its message. -/
  message : String
  deriving DecidableEq, Repr

/-- How an operation under a timeout ended. -/
inductive Timed (α : Type) where
  /-- The timeout elapsed. -/
  | elapsed
  /-- The operation failed. -/
  | failed (error : ConnectionError)
  /-- The operation completed. -/
  | completed (value : α)

/-- The error of an operation that timed out. -/
def connectionTimeout (operation : String) : ConnectionError :=
  ⟨.timedOut, "health connection " ++ operation ++ " timed out"⟩

/-- What the caller of an operation under a timeout sees. -/
def Timed.result {α : Type} (operation : String) : Timed α → Except ConnectionError α
  | elapsed => .error (connectionTimeout operation)
  | failed error => .error error
  | completed value => .ok value

/-- One read of at most `maxRequestBytes` from a stream that delivers the given segments. -/
def readOnce : List (List UInt8) → List UInt8
  | [] => []
  | segment :: _ => segment.take maxRequestBytes

/-- The path in the request line, without the query string. -/
def parseRequestPath (request : List Char) : Option String := do
  let line ← firstLine request
  let target ← (splitWhitespace line)[1]?
  return String.ofList ((target.splitOn '?').head?.getD target)

section Serve

variable (feeds : Receiver → ServablePeers) (zones : List ZoneReadiness) (readyThreshold : ℕ)

/-- The response to what was read. -/
def connectionResponse (read : List UInt8) : String :=
  match parseRequestPath (fromUtf8Lossy read) with
  | some "/health" => httpResponse 200 "OK" "ok\n"
  | some "/ready" => readinessResponse feeds readyThreshold zones
  | some "/" => readinessResponse feeds readyThreshold zones
  | _ => httpResponse 404 "Not Found" "not found\n"

/-- Serve one connection: the response handed to the stream, if any, and the result. -/
def serveConnection (read : Timed (List UInt8)) (writeAll flush : Timed Unit) :
    Option String × Except ConnectionError Unit :=
  match read.result "read" with
  | .error error => (none, .error error)
  | .ok bytes =>
      (some (connectionResponse feeds zones readyThreshold bytes), do
        writeAll.result "write"
        flush.result "flush")

end Serve

/-! ## Requests -/

/-- A byte of the visible ASCII characters. -/
def IsVisible (b : UInt8) : Prop := 0x21 ≤ b ∧ b ≤ 0x7E

instance (b : UInt8) : Decidable (IsVisible b) := inferInstanceAs (Decidable (_ ∧ _))

/-- An HTTP request with a complete request line. -/
structure HttpRequest where
  /-- The method. -/
  method : List UInt8
  /-- The request target. -/
  target : List UInt8
  /-- The protocol version. -/
  version : List UInt8
  /-- Headers and body, behind the request line. -/
  rest : List UInt8
  /-- The method is not empty. -/
  method_ne : method ≠ []
  /-- The target is not empty. -/
  target_ne : target ≠ []
  /-- The method's characters are visible. -/
  method_visible : ∀ b ∈ method, IsVisible b
  /-- The target's characters are visible. -/
  target_visible : ∀ b ∈ target, IsVisible b
  /-- The version's characters are visible. -/
  version_visible : ∀ b ∈ version, IsVisible b

namespace HttpRequest

variable (request : HttpRequest)

/-- What follows the request target: a blank, the version, the line end, headers and body. -/
def afterTarget : List UInt8 := 0x20 :: request.version ++ 0x0D :: 0x0A :: request.rest

/-- The bytes of the request. -/
def bytes : List UInt8 := request.method ++ 0x20 :: (request.target ++ request.afterTarget)

/-- The path: the target's characters before the first question mark. -/
def path : List Char := (request.target.map asciiChar).takeWhile (· != '?')

/-- How much of the target the first `size` bytes of the request hold. -/
def targetReceived (size : ℕ) : ℕ := size - (request.method.length + 1)

end HttpRequest

section Bytes

/-- A visible byte is the ASCII byte of a character that is no white space. -/
theorem IsVisible.char {b : UInt8} (h : IsVisible b) :
    b < 0x80 ∧ isWhitespace (asciiChar b) = false ∧ asciiChar b ≠ '\n' := by
  have hchars : ∀ n < 0x7F, 0x21 ≤ n →
      isWhitespace (Char.ofNat n) = false ∧ Char.ofNat n ≠ '\n' := by decide +kernel
  have hlo : 0x21 ≤ b.toNat := UInt8.le_iff_toNat_le.mp h.1
  have hhi : b.toNat ≤ 0x7E := UInt8.le_iff_toNat_le.mp h.2
  refine ⟨UInt8.lt_iff_toNat_lt.mpr ?_, hchars b.toNat (by omega) hlo⟩
  show b.toNat < 0x80
  omega

/-- Visible bytes, and at least one, make up a word. -/
theorem isWord_of_visible {bytes : List UInt8} (hne : bytes ≠ []) (h : ∀ b ∈ bytes, IsVisible b) :
    IsWord (bytes.map asciiChar) := by
  refine ⟨by simpa using hne, fun c hc => ?_⟩
  obtain ⟨b, hb, rfl⟩ := List.mem_map.mp hc
  exact (h b hb).char.2.1

theorem newline_not_mem_of_visible {bytes : List UInt8} (h : ∀ b ∈ bytes, IsVisible b) :
    '\n' ∉ bytes.map asciiChar := by
  intro hmem
  obtain ⟨b, hb, heq⟩ := List.mem_map.mp hmem
  exact (h b hb).char.2.2 heq

theorem fromUtf8Lossy_visible {bytes : List UInt8} (h : ∀ b ∈ bytes, IsVisible b)
    (rest : List UInt8) :
    fromUtf8Lossy (bytes ++ rest) = bytes.map asciiChar ++ fromUtf8Lossy rest :=
  fromUtf8Lossy_append (fun b hb => (h b hb).char.1) rest

/-- A blank decodes to a blank. -/
theorem fromUtf8Lossy_blank (rest : List UInt8) :
    fromUtf8Lossy (0x20 :: rest) = ' ' :: fromUtf8Lossy rest := rfl

/-- **The path of a request line** whose method and target are there, whatever follows a blank. -/
theorem parseRequestPath_line {method target after : List UInt8} (hmethod : method ≠ [])
    (htarget : target ≠ []) (hmv : ∀ b ∈ method, IsVisible b) (htv : ∀ b ∈ target, IsVisible b)
    (hafter : after = [] ∨ ∃ more, after = 0x20 :: more) :
    parseRequestPath (fromUtf8Lossy (method ++ 0x20 :: (target ++ after)))
      = some (String.ofList ((target.map asciiChar).takeWhile (· != '?'))) := by
  have hmword := isWord_of_visible hmethod hmv
  have htword := isWord_of_visible htarget htv
  have hdecoded : fromUtf8Lossy (method ++ 0x20 :: (target ++ after))
      = (method.map asciiChar ++ ' ' :: target.map asciiChar) ++ fromUtf8Lossy after := by
    rw [fromUtf8Lossy_visible hmv, fromUtf8Lossy_blank, fromUtf8Lossy_visible htv]
    simp
  have hblank : BlankOrEnd (fromUtf8Lossy after) := by
    rcases hafter with rfl | ⟨more, rfl⟩
    · exact Or.inl rfl
    · exact Or.inr ⟨_, fromUtf8Lossy_blank more⟩
  have hnewline : '\n' ∉ method.map asciiChar ++ ' ' :: target.map asciiChar := by
    rw [List.mem_append, List.mem_cons, not_or, not_or]
    exact ⟨newline_not_mem_of_visible hmv, by decide, newline_not_mem_of_visible htv⟩
  obtain ⟨tail, hline, htail⟩ := firstLine_append
    (List.append_ne_nil_of_left_ne_nil hmword.1 _) hnewline hblank
  -- the target is the second word, alone or before the next blank
  have hwords : (splitWhitespace ((method.map asciiChar ++ ' ' :: target.map asciiChar) ++ tail))[1]?
      = some (target.map asciiChar) := by
    rw [List.append_assoc, List.cons_append, splitWhitespace_append hmword (by decide)]
    rcases htail with rfl | ⟨more, rfl⟩
    · rw [List.append_nil, splitWhitespace_word htword]
      rfl
    · rw [splitWhitespace_append htword (by decide)]
      rfl
  rw [parseRequestPath, hdecoded, hline]
  simp only [Option.bind_eq_bind, Option.bind_some, hwords, head?_splitOn, Option.getD_some]
  rfl

/-- Without a target there is no path: at most the method and a blank have arrived. -/
theorem parseRequestPath_method {method : List UInt8} (hmv : ∀ b ∈ method, IsVisible b) :
    parseRequestPath (fromUtf8Lossy method) = none ∧
      parseRequestPath (fromUtf8Lossy (method ++ [0x20])) = none := by
  have hplain : fromUtf8Lossy method = method.map asciiChar := by
    have h := fromUtf8Lossy_visible hmv []
    rwa [List.append_nil, fromUtf8Lossy_nil, List.append_nil] at h
  have hblank : fromUtf8Lossy (method ++ [0x20]) = method.map asciiChar ++ [' '] :=
    fromUtf8Lossy_visible hmv [0x20]
  have hnewline := newline_not_mem_of_visible hmv
  have hnewline' : '\n' ∉ method.map asciiChar ++ [' '] := by
    rw [List.mem_append, not_or]
    exact ⟨hnewline, by decide⟩
  rw [parseRequestPath, parseRequestPath, hplain, hblank,
    firstLine_of_not_mem (List.append_ne_nil_of_right_ne_nil _ (List.cons_ne_nil _ _)) hnewline']
  by_cases hne : method = []
  · subst hne
    exact ⟨rfl, rfl⟩
  · -- one word only
    have hword := isWord_of_visible hne hmv
    rw [firstLine_of_not_mem hword.1 hnewline]
    simp only [Option.bind_eq_bind, Option.bind_some, splitWhitespace_word hword]
    rw [splitWhitespace_append hword (by decide)]
    exact ⟨rfl, rfl⟩

end Bytes

namespace HttpRequest

variable (request : HttpRequest)

/-- As long as no byte of the target has arrived, what has arrived is the beginning of the method, or
the method and a blank. -/
theorem take_bytes_of_targetReceived_eq_zero {size : ℕ} (h : request.targetReceived size = 0) :
    request.bytes.take size = request.method.take size ∨
      request.bytes.take size = request.method ++ [0x20] := by
  unfold targetReceived at h
  by_cases hsize : size ≤ request.method.length
  · left
    rw [bytes, List.take_append_of_le_length hsize]
  · right
    have hexact : size = request.method.length + 1 := by omega
    rw [bytes, hexact, List.take_length_add_append]
    rfl

/-- From then on it is the method, a blank, the beginning of the target and, once that is complete,
what follows it. -/
theorem take_bytes_of_targetReceived_pos {size : ℕ} (h : 0 < request.targetReceived size) :
    request.bytes.take size = request.method ++ 0x20 ::
      (request.target.take (request.targetReceived size) ++ request.afterTarget.take
        (request.targetReceived size - request.target.length)) := by
  have hsize : size = request.method.length + (request.targetReceived size + 1) := by
    unfold targetReceived at h ⊢
    omega
  conv_lhs => rw [hsize]
  rw [bytes, List.take_length_add_append, List.take_succ_cons, List.take_append]

/-- **The path found in the first `size` bytes of a request**: the beginning of its path, once the
target has begun to arrive. -/
theorem parseRequestPath_take (size : ℕ) :
    parseRequestPath (fromUtf8Lossy (request.bytes.take size))
      = if request.targetReceived size = 0 then none
        else some (String.ofList (request.path.take (request.targetReceived size))) := by
  by_cases h : request.targetReceived size = 0
  · rw [if_pos h]
    rcases request.take_bytes_of_targetReceived_eq_zero h with htake | htake
    · rw [htake]
      exact (parseRequestPath_method fun b hb =>
        request.method_visible b (List.mem_of_mem_take hb)).1
    · rw [htake]
      exact (parseRequestPath_method request.method_visible).2
  · rw [if_neg h, request.take_bytes_of_targetReceived_pos (Nat.pos_of_ne_zero h)]
    have htarget : request.target.take (request.targetReceived size) ≠ [] := by
      rw [Ne, List.take_eq_nil_iff, not_or]
      exact ⟨h, request.target_ne⟩
    have hafter : request.afterTarget.take (request.targetReceived size - request.target.length) = [] ∨
        ∃ more, request.afterTarget.take (request.targetReceived size - request.target.length)
          = 0x20 :: more := by
      cases request.targetReceived size - request.target.length with
      | zero => exact Or.inl rfl
      | succ n => exact Or.inr ⟨_, rfl⟩
    rw [parseRequestPath_line request.method_ne htarget request.method_visible
      (fun b hb => request.target_visible b (List.mem_of_mem_take hb)) hafter, List.map_take, path,
      List.take_takeWhile]

end HttpRequest

/-! ## The three responses -/

/-- The status of a response can be read off its text. -/
theorem httpResponse_status_inj {status status' : ℕ} {reason reason' body body' : String}
    (h : httpResponse status reason body = httpResponse status' reason' body') :
    status = status' := by
  have hspace : (" " : String).toList = [' '] := rfl
  have hchars := congrArg String.toList h
  unfold httpResponse at hchars
  simp only [String.toList_append, List.append_assoc, hspace, List.cons_append,
    List.nil_append] at hchars
  have hrest := List.append_cancel_left hchars
  exact decimal_field_inj (by decide) hrest

/-- So can the body. -/
theorem httpResponse_body_inj {status : ℕ} {reason body body' : String}
    (h : httpResponse status reason body = httpResponse status reason body') : body = body' := by
  have hend : ("\r\n" : String).toList = ['\r', '\n'] := rfl
  have hchars := congrArg String.toList h
  unfold httpResponse at hchars
  simp only [String.toList_append, List.append_assoc] at hchars
  -- up to the length of the body both are the same
  have hlength := List.append_cancel_left (List.append_cancel_left (List.append_cancel_left
    (List.append_cancel_left (List.append_cancel_left (List.append_cancel_left
      (List.append_cancel_left hchars))))))
  simp only [hend, List.cons_append, List.nil_append] at hlength
  have hsize : body.utf8ByteSize = body'.utf8ByteSize := decimal_field_inj (by decide) hlength
  rw [hsize] at hlength
  have hbody := List.append_cancel_left hlength
  simp only [List.cons.injEq, true_and] at hbody
  have hrest := List.append_cancel_left hbody
  simp only [List.cons.injEq, true_and] at hrest
  exact String.toList_inj.mp hrest

section Routes

variable {feeds : Receiver → ServablePeers} {zones : List ZoneReadiness} {readyThreshold : ℕ}

/-- The readiness reply has status 200 or 503. -/
theorem readinessReply_statusLine (feeds : Receiver → ServablePeers) (zones : List ZoneReadiness)
    (readyThreshold : ℕ) :
    (readinessReply feeds readyThreshold zones).status = 200 ∧
        (readinessReply feeds readyThreshold zones).reason = "OK" ∨
      (readinessReply feeds readyThreshold zones).status = 503 := by
  unfold readinessReply
  dsimp only
  split
  · exact Or.inl ⟨rfl, rfl⟩
  · exact Or.inr rfl

/-- A zone's line starts with its network's label. -/
theorem head?_readinessLine_ne (network : ZcashNetwork) (servable : ℕ) (state : String) :
    (readinessLine network servable state).toList.head? ≠ some 'o' := by
  unfold readinessLine
  simp only [String.toList_append, List.append_assoc]
  have hlabel : ∀ network : ZcashNetwork, ∃ c rest, network.label.toList = c :: rest ∧ c ≠ 'o'
    | .mainnet => ⟨'m', "ainnet".toList, rfl, by decide⟩
    | .testnet => ⟨'t', "estnet".toList, rfl, by decide⟩
  obtain ⟨c, rest, heq, hne⟩ := hlabel network
  rw [heq, List.cons_append, List.head?_cons]
  exact fun h => hne (Option.some.inj h)

/-- No readiness body is `ok`. -/
theorem body_readinessReply_ne : (readinessReply feeds readyThreshold zones).body ≠ "ok\n" := by
  intro hbody
  have hlines : bodyLines (readinessReply feeds readyThreshold zones).body = _ :=
    bodyLines_readinessReply zones
  rw [hbody, show bodyLines "ok\n" = [['o', 'k'], []] by decide +kernel] at hlines
  cases zones with
  | nil => exact absurd hlines (by simp)
  | cons zone zones =>
      rw [List.map_cons, List.cons_append, List.cons.injEq] at hlines
      have hhead := head?_readinessLine_ne zone.1 (feeds zone.2).total
        (readinessWord feeds readyThreshold zone)
      rw [← hlines.1] at hhead
      exact hhead rfl

/-- **The readiness response is neither of the two fixed ones**, whatever the zones. -/
theorem readinessResponse_ne :
    readinessResponse feeds readyThreshold zones ≠ httpResponse 200 "OK" "ok\n" ∧
      readinessResponse feeds readyThreshold zones
        ≠ httpResponse 404 "Not Found" "not found\n" := by
  have hbody : (readinessReply feeds readyThreshold zones).body ≠ "ok\n" := body_readinessReply_ne
  have hresponse : readinessResponse feeds readyThreshold zones
      = httpResponse (readinessReply feeds readyThreshold zones).status
          (readinessReply feeds readyThreshold zones).reason
          (readinessReply feeds readyThreshold zones).body := rfl
  rw [hresponse]
  rcases readinessReply_statusLine feeds zones readyThreshold with ⟨hstatus, hreason⟩ | hstatus
  · rw [hstatus, hreason]
    refine ⟨fun heq => hbody (httpResponse_body_inj heq), fun heq => ?_⟩
    exact absurd (httpResponse_status_inj heq) (by decide)
  · rw [hstatus]
    refine ⟨fun heq => ?_, fun heq => ?_⟩
    · exact absurd (httpResponse_status_inj heq) (by decide)
    · exact absurd (httpResponse_status_inj heq) (by decide)

/-- The routes. -/
def routes : List (List Char) := ["/health".toList, "/ready".toList, "/".toList]

/-- The response to a path. -/
def pathResponse (feeds : Receiver → ServablePeers) (zones : List ZoneReadiness)
    (readyThreshold : ℕ) (path : List Char) : String :=
  if path = "/health".toList then httpResponse 200 "OK" "ok\n"
  else if path = "/ready".toList ∨ path = "/".toList then readinessResponse feeds readyThreshold zones
  else httpResponse 404 "Not Found" "not found\n"

/-- The response to the first `size` bytes of a request is the one to the path found in them; no path
is answered as the empty one. -/
theorem connectionResponse_take (request : HttpRequest) (size : ℕ) :
    connectionResponse feeds zones readyThreshold (request.bytes.take size)
      = pathResponse feeds zones readyThreshold (request.path.take (request.targetReceived size)) := by
  have hchars : ∀ {path : List Char} {text : String}, some (String.ofList path) = some text →
      path = text.toList := fun heq => by rw [← Option.some.inj heq, String.toList_ofList]
  have htext : ∀ {path : List Char} {text : String}, path = text.toList →
      some (String.ofList path) = some text := fun heq => by rw [heq, String.ofList_toList]
  unfold connectionResponse pathResponse
  rw [request.parseRequestPath_take]
  by_cases h : request.targetReceived size = 0
  · rw [if_pos h, h, List.take_zero, if_neg (by decide), if_neg (by decide)]
  · rw [if_neg h]
    split
    · next heq => rw [if_pos (hchars heq)]
    · next heq =>
        have hready := hchars heq
        rw [hready, if_neg (by decide), if_pos (Or.inl rfl)]
    · next heq =>
        have hroot := hchars heq
        rw [hroot, if_neg (by decide), if_pos (Or.inr rfl)]
    · next hhealth hready hroot =>
        rw [if_neg fun heq => hhealth (htext heq), if_neg]
        rintro (heq | heq)
        · exact hready (htext heq)
        · exact hroot (htext heq)

/-- A path that is no route is answered 404, and no route is. -/
theorem pathResponse_eq_notFound_iff (path : List Char) :
    pathResponse feeds zones readyThreshold path = httpResponse 404 "Not Found" "not found\n" ↔
      path ∉ routes := by
  unfold pathResponse routes
  have hready : readinessResponse feeds readyThreshold zones
      ≠ httpResponse 404 "Not Found" "not found\n" := readinessResponse_ne.2
  split
  · next h =>
      refine iff_of_false (fun heq => ?_) (by simp [h])
      exact absurd (httpResponse_status_inj heq) (by decide)
  · split
    · next h => exact iff_of_false hready (by rcases h with h | h <;> simp [h])
    · next h h' =>
        refine iff_of_true rfl ?_
        rw [not_or] at h'
        simp only [List.mem_cons, List.not_mem_nil, or_false, not_or]
        exact ⟨h, h'⟩

/-- The proper beginnings of routes are `/`, and no routes. -/
theorem take_route_cases : ∀ path ∈ routes, ∀ size < path.length,
    (path.take size = "/".toList ∧ size = 1) ∨ path.take size ∉ routes := by
  decide +kernel

theorem pathResponse_root :
    pathResponse feeds zones readyThreshold "/".toList
      = readinessResponse feeds readyThreshold zones := by
  rw [pathResponse, if_neg (by decide), if_pos (Or.inr rfl)]

/-- Of the other two routes, `/ready` is answered as `/` is. -/
theorem pathResponse_root_eq_iff {path : List Char} (h : path ∈ routes) :
    pathResponse feeds zones readyThreshold "/".toList
        = pathResponse feeds zones readyThreshold path ↔
      path = "/ready".toList ∨ path = "/".toList := by
  rw [pathResponse_root]
  by_cases hready : path = "/ready".toList ∨ path = "/".toList
  · refine iff_of_true ?_ hready
    rw [pathResponse, if_neg, if_pos hready]
    rintro rfl
    revert hready
    decide
  · have hhealth : path = "/health".toList := by
      rcases List.mem_cons.mp h with heq | hrest
      · exact heq
      · rcases List.mem_cons.mp hrest with heq | heq
        · exact absurd (Or.inl heq) hready
        · exact absurd (Or.inr (List.mem_singleton.mp heq)) hready
    refine iff_of_false ?_ hready
    rw [pathResponse, if_pos hhealth]
    exact readinessResponse_ne.1

/-- **When the beginning of a path gets the response to the path.** -/
theorem pathResponse_take_eq_iff (path : List Char) (size : ℕ) :
    pathResponse feeds zones readyThreshold (path.take size)
        = pathResponse feeds zones readyThreshold path ↔
      path.length ≤ size ∨ (path = "/ready".toList ∧ size = 1) ∨
        (path ∉ routes ∧ path.take size ∉ routes) := by
  by_cases hlong : path.length ≤ size
  · rw [List.take_of_length_le hlong]
    exact iff_of_true rfl (Or.inl hlong)
  · rw [or_iff_right hlong]
    by_cases hroute : path ∈ routes
    · rw [or_iff_left fun h => h.1 hroute]
      rcases take_route_cases path hroute size (Nat.lt_of_not_le hlong) with ⟨htake, hone⟩ | htake
      · -- `/` has arrived, and more is to come
        rw [htake, pathResponse_root_eq_iff hroute, and_iff_left hone]
        refine or_iff_left fun hroot => hlong ?_
        rw [hroot, hone]
        decide
      · -- what has arrived is answered 404, and the path is not
        refine iff_of_false (fun heq => ?_) ?_
        · rw [(pathResponse_eq_notFound_iff _).mpr htake] at heq
          exact (pathResponse_eq_notFound_iff path).mp heq.symm hroute
        · rintro ⟨hready, hone⟩
          rw [hready, hone] at htake
          revert htake
          decide
    · rw [or_iff_right fun h => hroute (by rw [h.1]; decide), and_iff_right hroute,
        (pathResponse_eq_notFound_iff path).mpr hroute]
      exact pathResponse_eq_notFound_iff _

end Routes

/-! ## Segments -/

/-- **What the first segment must hold of a request**, `size` bytes long: the whole path; or of
`/ready` its `/` and nothing more; or, of a path that is no route, a beginning that is none either. -/
def HttpRequest.DecidedBy (request : HttpRequest) (size : ℕ) : Prop :=
  request.path.length ≤ request.targetReceived size ∨
    (request.path = "/ready".toList ∧ request.targetReceived size = 1) ∨
    (request.path ∉ routes ∧ request.path.take (request.targetReceived size) ∉ routes)

instance (request : HttpRequest) (size : ℕ) : Decidable (request.DecidedBy size) :=
  inferInstanceAs (Decidable (_ ∨ (_ ∧ _) ∨ (_ ∧ _)))

/-- The whole request holds the whole path. -/
theorem HttpRequest.length_path_le (request : HttpRequest) :
    request.path.length ≤ request.targetReceived request.bytes.length := by
  have hpath : request.path.length ≤ request.target.length := by
    have hprefix := (List.takeWhile_prefix (· != '?') (l := request.target.map asciiChar)).length_le
    rwa [List.length_map] at hprefix
  have hbytes : request.bytes.length
      = request.method.length + 1 + (request.target.length + request.afterTarget.length) := by
    rw [bytes, List.length_append, List.length_cons, List.length_append]
    omega
  unfold targetReceived
  omega

/-- The first segment of a request that fits is a beginning of it, and is read whole. -/
theorem HttpRequest.readOnce_eq_take (request : HttpRequest)
    (hfits : request.bytes.length ≤ maxRequestBytes) {segments : List (List UInt8)}
    (hsegments : segments.flatten = request.bytes) :
    readOnce segments = request.bytes.take (segments.headD []).length := by
  cases segments with
  | nil => rfl
  | cons segment segments =>
      have hlength : segment.length ≤ request.bytes.length := by
        rw [← hsegments, List.flatten_cons, List.length_append]
        omega
      rw [readOnce, List.take_of_length_le (hlength.trans hfits), List.headD_cons, ← hsegments,
        List.flatten_cons, List.take_left]

/-- What is written and returned depends on what was read through the response only. -/
theorem serveConnection_completed_eq_iff {feeds : Receiver → ServablePeers}
    {zones : List ZoneReadiness} {readyThreshold : ℕ} {writeAll flush : Timed Unit}
    {bytes bytes' : List UInt8} :
    serveConnection feeds zones readyThreshold (.completed bytes) writeAll flush
        = serveConnection feeds zones readyThreshold (.completed bytes') writeAll flush ↔
      connectionResponse feeds zones readyThreshold bytes
        = connectionResponse feeds zones readyThreshold bytes' := by
  rw [serveConnection, serveConnection, Timed.result, Timed.result]
  simp

/-- **The response depends on the first segment only**: it is the one to the whole request, read at
once, exactly when the first segment decides it. The request fits into one read, and is cut into any
segments; the zones, their snapshots and what becomes of writing and flushing are arbitrary. -/
theorem segmentation_invisible_iff (request : HttpRequest)
    (hfits : request.bytes.length ≤ maxRequestBytes) (segments : List (List UInt8))
    (hsegments : segments.flatten = request.bytes) (feeds : Receiver → ServablePeers)
    (zones : List ZoneReadiness) (readyThreshold : ℕ) (writeAll flush : Timed Unit) :
    serveConnection feeds zones readyThreshold (.completed (readOnce segments)) writeAll flush
        = serveConnection feeds zones readyThreshold (.completed (readOnce [request.bytes])) writeAll
          flush ↔
      request.DecidedBy (segments.headD []).length := by
  have hfirst : readOnce segments = request.bytes.take (segments.headD []).length :=
    request.readOnce_eq_take hfits hsegments
  have hwhole : readOnce [request.bytes] = request.bytes.take request.bytes.length :=
    request.readOnce_eq_take hfits List.flatten_singleton
  rw [serveConnection_completed_eq_iff, hfirst, hwhole, connectionResponse_take,
    connectionResponse_take, List.take_of_length_le request.length_path_le]
  exact pathResponse_take_eq_iff _ _

/-! ## A health probe in two segments -/

/-- `GET /health HTTP/1.1`, without headers. -/
def healthRequest : HttpRequest where
  method := "GET".toUTF8.data.toList
  target := "/health".toUTF8.data.toList
  version := "HTTP/1.1".toUTF8.data.toList
  rest := "\r\n".toUTF8.data.toList
  method_ne := by decide
  target_ne := by decide
  method_visible := by decide +kernel
  target_visible := by decide +kernel
  version_visible := by decide +kernel

/-- Cut behind its path, the request is answered as a whole. -/
theorem segmentation_invisible_healthRequest :
    serveConnection (fun _ => .default) [] 1 (.completed (readOnce
        [healthRequest.bytes.take 11, healthRequest.bytes.drop 11])) (.completed ()) (.completed ())
      = serveConnection (fun _ => .default) [] 1 (.completed (readOnce [healthRequest.bytes]))
          (.completed ()) (.completed ()) :=
  (segmentation_invisible_iff healthRequest (by decide +kernel)
    [healthRequest.bytes.take 11, healthRequest.bytes.drop 11] (by decide +kernel)
    (fun _ => .default) [] 1 (.completed ()) (.completed ())).mpr (by decide +kernel)

/-- **Cut inside its path, the probe of a live process is answered 404**, and 200 as a whole. -/
theorem segmented_healthRequest_not_found :
    [healthRequest.bytes.take 6, healthRequest.bytes.drop 6].flatten = healthRequest.bytes ∧
      healthRequest.bytes.length ≤ maxRequestBytes ∧
      (serveConnection (fun _ => .default) [] 1 (.completed (readOnce
          [healthRequest.bytes.take 6, healthRequest.bytes.drop 6])) (.completed ())
          (.completed ())).1 = some (httpResponse 404 "Not Found" "not found\n") ∧
      (serveConnection (fun _ => .default) [] 1 (.completed (readOnce [healthRequest.bytes]))
          (.completed ()) (.completed ())).1 = some (httpResponse 200 "OK" "ok\n") ∧
      httpResponse 404 "Not Found" "not found\n" ≠ httpResponse 200 "OK" "ok\n" := by
  refine ⟨by decide +kernel, by decide +kernel, by decide +kernel, by decide +kernel, fun heq => ?_⟩
  exact absurd (httpResponse_status_inj heq) (by decide)

end Zeeder.Health
