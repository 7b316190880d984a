import SingQuic.HeaderMap
import SingQuic.Hysteria2.Login

/-! Answers to requests that do not authenticate: the body of the request is collected,
a handler makes up a response, and the response is framed as that of an HTTP server. The
answers of the request stream to the calls made on it are arguments. -/
namespace SingQuic.Hysteria2
open Wire Net

def headerConnection : String := "connection"
def headerTransferEncoding : String := "transfer-encoding"
def headerContentLength : String := "content-length"

structure StatusCode where
  code : UInt16
  valid : 100 ≤ code.toNat ∧ code.toNat ≤ 999
  deriving DecidableEq

namespace StatusCode

def noContent : StatusCode := ⟨204, by decide⟩
def notModified : StatusCode := ⟨304, by decide⟩
def notFound : StatusCode := ⟨404, by decide⟩
def payloadTooLarge : StatusCode := ⟨413, by decide⟩

def isInformational (status : StatusCode) : Bool := 200 > status.code && status.code ≥ 100

def bodyIsAllowed (status : StatusCode) : Bool :=
  !status.isInformational && status ≠ noContent && status ≠ notModified

end StatusCode

structure MasqueradeResponse where
  status : StatusCode
  headers : HeaderMap
  body : Bytes

/-- What is handed to the request stream, in order. -/
inductive Frame where
  | response (status : StatusCode) (headers : HeaderMap)
  | data (bytes : Bytes)
  | finish

/-- What the request stream answers to each of the three calls. -/
structure ResponseStream where
  sendResponse : Except String Unit
  sendData : Except String Unit
  finish : Except String Unit

/-- The header section; `none` stands for the panic of `expect`. -/
def framedHeaders (response : MasqueradeResponse) (isHead : Bool) : Option HeaderMap :=
  let headers := (response.headers.remove headerConnection).remove headerTransferEncoding
  if isHead then
    if !headers.containsKey headerContentLength then
      (headerValue (toString response.body.length)).map (headers.insert headerContentLength)
    else some headers
  else if response.status.bodyIsAllowed then
    (headerValue (toString response.body.length)).map (headers.insert headerContentLength)
  else some (headers.remove headerContentLength)

/-- The frames passed to the stream, the one it refuses included. -/
def sendMasqueradeResponse (stream : ResponseStream) (response : MasqueradeResponse) (isHead : Bool) :
    Option (List Frame × Result Unit) :=
  (framedHeaders response isHead).map fun headers =>
    let head := Frame.response response.status headers
    match stream.sendResponse with
    | .error text => ([head], .error (.http3 text))
    | .ok () =>
      if !isHead && response.status.bodyIsAllowed && !response.body.isEmpty then
        match stream.sendData with
        | .error text => ([head, .data response.body], .error (.http3 text))
        | .ok () => ([head, .data response.body, .finish], stream.finish.mapError .http3)
      else ([head, .finish], stream.finish.mapError .http3)

def maxMasqueradeRequestSize : Nat := 16 * 1024 * 1024

inductive RequestBody where
  | complete (body : Bytes)
  | tooLarge
  | failed (text : String)
  deriving DecidableEq, Repr

/-- The loop over `recv_data`, whose answers end where the request does. -/
def collectBody (body : Bytes) : List (Except String Bytes) → RequestBody
  | [] => .complete body
  | .error text :: _ => .failed text
  | .ok chunk :: rest =>
    if body.length + chunk.length > maxMasqueradeRequestSize then .tooLarge
    else collectBody (body ++ chunk) rest

abbrev MasqueradeHandler := SocketAddr → Request → Bytes → MasqueradeResponse

def masqueradeResponse (masquerade : Option MasqueradeHandler) (source : SocketAddr) (request : Request)
    (body : Bytes) : MasqueradeResponse :=
  match masquerade with
  | some handler => handler source request body
  | none => ⟨.notFound, .empty, []⟩

def serveMasqueradeRequest (stream : ResponseStream) (masquerade : Option MasqueradeHandler)
    (source : SocketAddr) (request : Request) (received : List (Except String Bytes)) :
    Option (List Frame × Result Unit) :=
  let isHead := request.method = "HEAD"
  match collectBody [] received with
  | .failed text => some ([], .error (.http3 text))
  | .tooLarge => sendMasqueradeResponse stream ⟨.payloadTooLarge, .empty, []⟩ isHead
  | .complete body =>
    sendMasqueradeResponse stream (masqueradeResponse masquerade source request body) isHead

/-- The decimal text of a body's length. -/
def lengthText (body : Bytes) : Bytes := asBytes (toString body.length)

theorem headerValue_length (body : Bytes) : headerValue (toString body.length) = some (lengthText body) :=
  headerValue_of_visible (asBytes_alphanum (alphanum_toString body.length))

namespace MasqueradeResponse
variable (response : MasqueradeResponse)

/-- The content length the handler gave itself. -/
def ownLength : List Bytes := response.headers.getAll headerContentLength

/-- The headers without those that belong to one connection. -/
def stripped : HeaderMap :=
  (response.headers.remove headerConnection).remove headerTransferEncoding

theorem stripped_connection : response.stripped.getAll headerConnection = [] := by
  simp [stripped]

theorem stripped_transferEncoding : response.stripped.getAll headerTransferEncoding = [] := by
  simp [stripped]

theorem stripped_contentLength : response.stripped.getAll headerContentLength = response.ownLength := by
  simp [stripped, ownLength, headerContentLength, headerConnection, headerTransferEncoding]

end MasqueradeResponse

/-- The header section of a response to `HEAD`: the status is not looked at. -/
theorem framedHeaders_head (response : MasqueradeResponse) : framedHeaders response true =
    some (if response.ownLength = [] then
        response.stripped.insert headerContentLength (lengthText response.body)
      else response.stripped) := by
  have own := response.stripped_contentLength
  unfold framedHeaders
  rw [← MasqueradeResponse.stripped, headerValue_length, ← own]
  by_cases absent : response.stripped.getAll headerContentLength = []
  · simp [HeaderMap.containsKey_eq_false.mpr absent, absent]
  · have present : response.stripped.containsKey headerContentLength = true :=
      Bool.eq_true_of_not_eq_false (mt HeaderMap.containsKey_eq_false.mp absent)
    simp [present, absent]

theorem framedHeaders_get (response : MasqueradeResponse) : framedHeaders response false =
    some (if response.status.bodyIsAllowed then
        response.stripped.insert headerContentLength (lengthText response.body)
      else response.stripped.remove headerContentLength) := by
  unfold framedHeaders
  rw [← MasqueradeResponse.stripped, headerValue_length]
  by_cases allowed : response.status.bodyIsAllowed
  · simp [allowed]
  · simp [allowed]

def Frame.header : Frame → Option (StatusCode × HeaderMap)
  | .response status headers => some (status, headers)
  | .data _ | .finish => none

def Frame.bytes : Frame → Bytes
  | .data bytes => bytes
  | .response _ _ | .finish => []

/-- The header sections among the frames. -/
def sections (frames : List Frame) : List (StatusCode × HeaderMap) := frames.filterMap Frame.header

def bodyBytes (frames : List Frame) : Bytes := frames.flatMap Frame.bytes

/-- One header section, and the body behind it if there may be one and the stream lives. -/
theorem sendMasqueradeResponse_spec {response : MasqueradeResponse} {isHead : Bool} {headers : HeaderMap}
    (framed : framedHeaders response isHead = some headers) (stream : ResponseStream) :
    ∃ frames result, sendMasqueradeResponse stream response isHead = some (frames, result) ∧
      sections frames = [(response.status, headers)] ∧
      bodyBytes frames = if stream.sendResponse.isOk ∧ isHead = false ∧
        response.status.bodyIsAllowed = true then response.body else [] := by
  rw [sendMasqueradeResponse, framed, Option.map_some]
  cases stream.sendResponse with
  | error text => exact ⟨_, _, rfl, rfl, by simp [bodyBytes, Frame.bytes, Except.isOk, Except.toBool]⟩
  | ok accepted =>
    dsimp only
    by_cases carries : (!isHead && response.status.bodyIsAllowed && !response.body.isEmpty) = true
    · rw [if_pos carries]
      simp only [Bool.and_eq_true, Bool.not_eq_true'] at carries
      obtain ⟨⟨get, allowed⟩, _⟩ := carries
      rw [if_pos ⟨rfl, get, allowed⟩]
      cases stream.sendData with
      | error text => exact ⟨_, _, rfl, rfl, by simp [bodyBytes, Frame.bytes]⟩
      | ok sent => exact ⟨_, _, rfl, rfl, by simp [bodyBytes, Frame.bytes]⟩
    · rw [if_neg carries]
      refine ⟨_, _, rfl, rfl, ?_⟩
      simp only [Bool.and_eq_true, Bool.not_eq_true', List.isEmpty_eq_false_iff] at carries
      split
      · rename_i both
        by_contra nonempty
        exact carries ⟨both.2, fun empty => nonempty (by simp [bodyBytes, Frame.bytes, empty])⟩
      · rfl

/-- A content length as a number: decimal digits and nothing else. -/
def contentLength (value : Bytes) : Option Nat :=
  (fromUtf8 value).bind fun text =>
    if text.toList.isEmpty || text.toList.any fun c => (toDigit 10 c).isNone then none
    else some (digitsValue 10 text.toList)

/-- The content length of the handler is absent, or it is that of the body each time it is given. -/
def MasqueradeResponse.OwnLengthRight (response : MasqueradeResponse) : Prop :=
  ∀ value ∈ response.ownLength, contentLength value = some response.body.length

/-- How an HTTP server frames an answer: nothing about the connection, a body of the declared length
where there is one, and no length where there can be no body; and unless the handler gave a length that
is not the one of its body, `HEAD` says what `GET` would say. -/
structure Framed (response : MasqueradeResponse) (isHead : Bool) : Prop where
  sent : ∀ stream, ∃ headers frames result,
    sendMasqueradeResponse stream response isHead = some (frames, result) ∧
      sections frames = [(response.status, headers)] ∧
      headers.getAll headerConnection = [] ∧ headers.getAll headerTransferEncoding = [] ∧
      (bodyBytes frames ≠ [] → isHead = false ∧ response.status.bodyIsAllowed = true) ∧
      (isHead = false → response.status.bodyIsAllowed = true →
        headers.getAll headerContentLength = [lengthText response.body] ∧
        (stream.sendResponse.isOk → bodyBytes frames = response.body)) ∧
      (response.status.isInformational = true ∨ response.status = .noContent →
        headers.getAll headerContentLength = [])
  head : response.OwnLengthRight → ∀ stream,
    (sendMasqueradeResponse stream response true).map (fun sent => sections sent.1) =
      (sendMasqueradeResponse stream response false).map fun sent => sections sent.1

theorem contentLength_lengthText (body : Bytes) : contentLength (lengthText body) = some body.length := by
  have digits : (toString body.length).toList = Nat.toDigits 10 body.length := by simp
  have numeric : ¬ ((Nat.toDigits 10 body.length).isEmpty ||
      (Nat.toDigits 10 body.length).any fun c => (toDigit 10 c).isNone) = true := by
    rw [Bool.or_eq_true, List.isEmpty_iff, List.any_eq_true]
    rintro (nothing | ⟨c, member, other⟩)
    · exact Nat.toDigits_ne_nil nothing
    · have digit := toDigits_numeric (by decide) (by decide) c member
      rw [Option.isNone_iff_eq_none] at other
      rw [other] at digit
      contradiction
  rw [contentLength, lengthText, fromUtf8_asBytes, Option.bind_some, digits, if_neg numeric,
    digitsValue_toDigits (by decide) (by decide)]

theorem MasqueradeResponse.ownLengthRight_of_text {response : MasqueradeResponse}
    (text : response.ownLength = [] ∨ response.ownLength = [lengthText response.body]) :
    response.OwnLengthRight := by
  intro value member
  rcases text with absent | own
  · rw [absent] at member
    cases member
  · rw [own, List.mem_singleton] at member
    rw [member, contentLength_lengthText]

theorem sections_sent {response : MasqueradeResponse} {isHead : Bool} {headers : HeaderMap}
    (framed : framedHeaders response isHead = some headers) (stream : ResponseStream) :
    (sendMasqueradeResponse stream response isHead).map (fun sent => sections sent.1) =
      some [(response.status, headers)] := by
  obtain ⟨frames, result, sent, only, _⟩ := sendMasqueradeResponse_spec framed stream
  rw [sent, Option.map_some, only]

theorem framedHeaders_local (response : MasqueradeResponse) (isHead : Bool) :
    ∃ headers, framedHeaders response isHead = some headers ∧
      headers.getAll headerConnection = [] ∧ headers.getAll headerTransferEncoding = [] := by
  have apart : headerConnection ≠ headerContentLength := by decide
  have apart' : headerTransferEncoding ≠ headerContentLength := by decide
  have connection := response.stripped_connection
  have encoding := response.stripped_transferEncoding
  cases isHead with
  | true =>
    refine ⟨_, framedHeaders_head response, ?_⟩
    split <;> simp [apart, apart', connection, encoding]
  | false =>
    refine ⟨_, framedHeaders_get response, ?_⟩
    split <;> simp [apart, apart', connection, encoding]

/-- The content length of a response to `HEAD`, under every status. -/
theorem head_contentLength {response : MasqueradeResponse} {headers : HeaderMap}
    (framed : framedHeaders response true = some headers) :
    headers.getAll headerContentLength =
      if response.ownLength = [] then [lengthText response.body] else response.ownLength := by
  obtain rfl := Option.some.inj ((framedHeaders_head response).symm.trans framed)
  split
  · rw [HeaderMap.getAll_insert, if_pos rfl]
  · exact response.stripped_contentLength

theorem get_contentLength {response : MasqueradeResponse} {headers : HeaderMap}
    (framed : framedHeaders response false = some headers) :
    headers.getAll headerContentLength =
      if response.status.bodyIsAllowed = true then [lengthText response.body] else [] := by
  obtain rfl := Option.some.inj ((framedHeaders_get response).symm.trans framed)
  split
  · rw [HeaderMap.getAll_insert, if_pos rfl]
  · rw [HeaderMap.getAll_remove, if_pos rfl]

theorem head_contentLength_ne_nil {response : MasqueradeResponse} {headers : HeaderMap}
    (framed : framedHeaders response true = some headers) :
    headers.getAll headerContentLength ≠ [] := by
  rw [head_contentLength framed]
  split
  · exact List.cons_ne_nil _ _
  · assumption

/-- `HEAD` and `GET` announce the same exactly for the statuses that allow a body, and
unless the handler gave a length of its own that is not the one of its body. -/
theorem framedHeaders_head_eq_get (response : MasqueradeResponse) :
    framedHeaders response true = framedHeaders response false ↔
      response.status.bodyIsAllowed = true ∧
        (response.ownLength = [] ∨ response.ownLength = [lengthText response.body]) := by
  obtain ⟨headers, head, _⟩ := framedHeaders_local response true
  constructor
  · intro same
    have announced := head_contentLength head
    have expected := get_contentLength (same.symm.trans head)
    by_cases allowed : response.status.bodyIsAllowed = true
    · rw [if_pos allowed, announced] at expected
      refine ⟨allowed, ?_⟩
      by_cases absent : response.ownLength = []
      · exact Or.inl absent
      · rw [if_neg absent] at expected
        exact Or.inr expected
    · rw [if_neg allowed] at expected
      exact absurd expected (head_contentLength_ne_nil head)
  · rintro ⟨allowed, absent | own⟩
    · rw [framedHeaders_head, framedHeaders_get, if_pos allowed, if_pos absent]
    · rw [framedHeaders_head, framedHeaders_get, if_pos allowed, if_neg (by simp [own]),
        HeaderMap.insert_eq_self (response.stripped_contentLength.trans own)]

/-- The branch for `HEAD` does not look at the status, and passes on the length of the handler as the
text it is given as. -/
structure MasqueradeResponse.Announces (response : MasqueradeResponse) (isHead : Bool) : Prop where
  content : isHead = true → response.status.isInformational = false ∧ response.status ≠ .noContent
  same : response.OwnLengthRight → response.status.bodyIsAllowed = true ∧
    (response.ownLength = [] ∨ response.ownLength = [lengthText response.body])

theorem framed_of_announces {response : MasqueradeResponse} {isHead : Bool}
    (announces : response.Announces isHead) : Framed response isHead := by
  constructor
  · intro stream
    obtain ⟨headers, framed, connection, encoding⟩ := framedHeaders_local response isHead
    obtain ⟨frames, result, sent, only, body⟩ := sendMasqueradeResponse_spec framed stream
    refine ⟨headers, frames, result, sent, only, connection, encoding, ?_, ?_, ?_⟩
    · intro some
      rw [body] at some
      split at some
      · rename_i carries
        exact carries.2
      · contradiction
    · rintro rfl allowed
      constructor
      · rw [get_contentLength framed, if_pos allowed]
      · intro accepted
        rw [body, if_pos ⟨accepted, rfl, allowed⟩]
    · intro bodiless
      cases isHead with
      | true =>
        obtain ⟨final, content⟩ := announces.content rfl
        rcases bodiless with interim | empty
        · exact absurd (interim.symm.trans final) (by decide)
        · exact absurd empty content
      | false =>
        have forbidden : response.status.bodyIsAllowed = false := by
          rcases bodiless with interim | empty
          · simp [StatusCode.bodyIsAllowed, interim]
          · simp [StatusCode.bodyIsAllowed, empty]
        rw [get_contentLength framed, forbidden]
        rfl
  · intro right stream
    obtain ⟨headers, head, _⟩ := framedHeaders_local response true
    have get := ((framedHeaders_head_eq_get response).mpr (announces.same right)).symm.trans head
    rw [sections_sent head, sections_sent get]

theorem collectBody_chunks {body : Bytes} (small : body.length ≤ maxMasqueradeRequestSize)
    (chunks : List Bytes) : collectBody body (chunks.map .ok) =
      if (body ++ chunks.flatten).length ≤ maxMasqueradeRequestSize then
        .complete (body ++ chunks.flatten) else .tooLarge := by
  induction chunks generalizing body with
  | nil => simp [collectBody, small]
  | cons chunk chunks ih =>
    rw [List.map_cons, collectBody, List.flatten_cons, ← List.append_assoc]
    split
    · rename_i exceeds
      rw [if_neg]
      rw [List.length_append, List.length_append]
      omega
    · rename_i fits
      exact ih (by rw [List.length_append]; omega)

/-- Around a handler whose responses are framed right, every request that arrives is
answered right, and the handler sees the whole body of those it answers. -/
theorem serveMasqueradeRequest_framed {masquerade : Option MasqueradeHandler}
    (announces : ∀ source request body,
      (masqueradeResponse masquerade source request body).Announces (request.method = "HEAD"))
    (stream : ResponseStream) (source : SocketAddr) (request : Request) (chunks : List Bytes) :
    ∃ response, Framed response (request.method = "HEAD") ∧
      serveMasqueradeRequest stream masquerade source request (chunks.map .ok) =
        sendMasqueradeResponse stream response (request.method = "HEAD") ∧
      (chunks.flatten.length ≤ maxMasqueradeRequestSize →
        response = masqueradeResponse masquerade source request chunks.flatten) := by
  have collected : collectBody [] (chunks.map .ok) = _ := collectBody_chunks (Nat.zero_le _) chunks
  rw [List.nil_append] at collected
  unfold serveMasqueradeRequest
  by_cases fits : chunks.flatten.length ≤ maxMasqueradeRequestSize
  · rw [collected, if_pos fits]
    exact ⟨_, framed_of_announces (announces source request chunks.flatten), rfl, fun _ => rfl⟩
  · rw [collected, if_neg fits]
    refine ⟨_, framed_of_announces ⟨fun _ => ⟨rfl, ?_⟩, fun _ => ⟨?_, Or.inl rfl⟩⟩, rfl,
      fun small => absurd small fits⟩
    · simp [StatusCode.payloadTooLarge, StatusCode.noContent]
    · simp [StatusCode.bodyIsAllowed, StatusCode.isInformational, StatusCode.payloadTooLarge,
        StatusCode.noContent, StatusCode.notModified]

end SingQuic.Hysteria2
