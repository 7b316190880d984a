import SingQuic.HeaderMap
import SingQuic.Qpack.Stateless

/-! HTTP messages as header fields, and header fields as HTTP messages. The texts of methods,
addresses, names and values are checked by the HTTP library, which is a parameter here: what it
makes of a text is the text itself or a refusal. -/
namespace SingQuic.H3
open Wire Qpack

/-- The parsers of the HTTP library. A parsed value is given by its text. -/
structure HttpLibrary where
  method : Bytes → Option String
  scheme : String → Option String
  authority : String → Option String
  pathAndQuery : String → Option String
  status : Bytes → Option UInt16
  statusText : UInt16 → String
  /-- `HeaderName::from_lowercase` -/
  headerName : Bytes → Option String
  /-- `HeaderValue::from_bytes` -/
  headerValue : Bytes → Option Bytes
  /-- The path of a path with its query. -/
  path : String → String

structure Uri where
  scheme : Option String
  authority : Option String
  pathAndQuery : Option String
  deriving DecidableEq, Repr

/-- `Uri::builder()..build()` with the texts that were given to it; the authority comes in bytes. -/
abbrev Builder := Option String → Option String → Bytes → Option Uri

inductive Protocol where
  | webTransport
  | connectUdp
  | connectIp
  | webSocket
  deriving DecidableEq, Repr

def Protocol.asStr : Protocol → String
  | .webTransport => "webtransport"
  | .connectUdp => "connect-udp"
  | .connectIp => "connect-ip"
  | .webSocket => "websocket"

def Protocol.fromStr (text : String) : Option Protocol :=
  if text = "webtransport" then some .webTransport
  else if text = "connect-udp" then some .connectUdp
  else if text = "connect-ip" then some .connectIp
  else if text = "websocket" then some .webSocket
  else none

theorem Protocol.fromStr_asStr (protocol : Protocol) : fromStr protocol.asStr = some protocol := by
  cases protocol <;> decide

/-- The errors with the bytes their texts print. -/
inductive HeaderError where
  | nameIsEmpty
  | invalidHeaderName (name : Bytes)
  | invalidHeaderValue (name value : Bytes)
  | invalidRequest
  | missingMethod
  | missingStatus
  | missingAuthority
  | contradictedAuthority
  deriving DecidableEq, Repr

structure Pseudo where
  method : Option String
  scheme : Option String
  authority : Option String
  path : Option String
  status : Option UInt16
  protocol : Option Protocol
  deriving DecidableEq, Repr

def Pseudo.default : Pseudo := ⟨none, none, none, none, none, none⟩

def Pseudo.request (http : HttpLibrary) (method : String) (uri : Uri) (ext : Option Protocol) : Pseudo :=
  let path := match uri.pathAndQuery with
    | none => "/"
    | some path => if http.path path = "" ∧ method ≠ "OPTIONS" then "/" else path
  let protocol := if method = "CONNECT" then ext else none
  let (scheme, path) :=
    if method = "CONNECT" ∧ protocol = none then (none, none)
    else (uri.scheme <|> some "https", some path)
  ⟨some method, scheme, uri.authority, path, none, protocol⟩

def Pseudo.response (status : UInt16) : Pseudo := ⟨none, none, none, none, some status, none⟩

structure Header where
  pseudo : Pseudo
  fields : HeaderMap
  deriving DecidableEq, Repr

namespace Header

def request (http : HttpLibrary) (method : String) (uri : Uri) (fields : HeaderMap)
    (ext : Option Protocol) : Except HeaderError Header :=
  match uri.authority, fields.get "host" with
  | none, none => .error .missingAuthority
  | some authority, some host =>
    if asBytes authority ≠ host then .error .contradictedAuthority
    else .ok ⟨.request http method uri ext, fields⟩
  | _, _ => .ok ⟨.request http method uri ext, fields⟩

def response (status : UInt16) (fields : HeaderMap) : Header := ⟨.response status, fields⟩

/-- A field under the name of a pseudo-header. -/
def pseudoField {α : Type} (name : String) (text : α → String) (value : Option α) : List HeaderField :=
  value.toList.map fun value => ⟨asBytes name, asBytes (text value)⟩

/-- What a `HeaderIter` goes through. -/
def intoIter (http : HttpLibrary) (self : Header) : List HeaderField :=
  pseudoField ":method" id self.pseudo.method ++ pseudoField ":scheme" id self.pseudo.scheme ++
    pseudoField ":authority" id self.pseudo.authority ++ pseudoField ":path" id self.pseudo.path ++
    pseudoField ":status" http.statusText self.pseudo.status ++
    pseudoField ":protocol" Protocol.asStr self.pseudo.protocol ++
    self.fields.iter.map fun field => ⟨asBytes field.1, field.2⟩

end Header

inductive Field where
  | method (value : String)
  | scheme (value : String)
  | authority (value : String)
  | path (value : String)
  | status (value : UInt16)
  | protocol (value : Protocol)
  | header (name : String) (value : Bytes)
  deriving DecidableEq, Repr

def orInvalid {α : Type} (field : HeaderField) : Option α → Except HeaderError α
  | some value => .ok value
  | none => .error (.invalidHeaderValue field.name field.value)

/-- A value that is parsed from text. -/
def tryValue {α : Type} (field : HeaderField) (parse : String → Option α) : Except HeaderError α :=
  orInvalid field ((fromUtf8 field.value).bind parse)

def Field.parse (http : HttpLibrary) (field : HeaderField) : Except HeaderError Field :=
  match field.name with
  | [] => .error .nameIsEmpty
  | first :: _ =>
    if first ≠ 58 then
      match http.headerName field.name with
      | none => .error (.invalidHeaderName field.name)
      | some name => (orInvalid field (http.headerValue field.value)).map (.header name)
    else if field.name = asBytes ":scheme" then (tryValue field http.scheme).map .scheme
    else if field.name = asBytes ":authority" then (tryValue field http.authority).map .authority
    else if field.name = asBytes ":path" then (tryValue field http.pathAndQuery).map .path
    else if field.name = asBytes ":method" then (orInvalid field (http.method field.value)).map .method
    else if field.name = asBytes ":status" then (orInvalid field (http.status field.value)).map .status
    else if field.name = asBytes ":protocol" then (tryValue field Protocol.fromStr).map .protocol
    else .error (.invalidHeaderName field.name)

namespace Header

/-- One field of the message taken in; a later pseudo-header replaces an earlier one. -/
def insert (self : Header) : Field → Header
  | .method value => { self with pseudo := { self.pseudo with method := some value } }
  | .scheme value => { self with pseudo := { self.pseudo with scheme := some value } }
  | .authority value => { self with pseudo := { self.pseudo with authority := some value } }
  | .path value => { self with pseudo := { self.pseudo with path := some value } }
  | .status value => { self with pseudo := { self.pseudo with status := some value } }
  | .protocol value => { self with pseudo := { self.pseudo with protocol := some value } }
  | .header name value => { self with fields := self.fields.append name value }

def tryFromLoop (http : HttpLibrary) (self : Header) : List HeaderField → Except HeaderError Header
  | [] => .ok self
  | field :: fields =>
    match Field.parse http field with
    | .error error => .error error
    | .ok parsed => tryFromLoop http (self.insert parsed) fields

/-- `none` when the map cannot have room for the fields, which panics. -/
def tryFrom (http : HttpLibrary) (headers : List HeaderField) : Option (Except HeaderError Header) :=
  (HeaderMap.withCapacity headers.length).map fun fields => tryFromLoop http ⟨.default, fields⟩ headers

end Header

structure RequestParts where
  method : String
  uri : Uri
  protocol : Option Protocol
  fields : HeaderMap
  deriving DecidableEq, Repr

namespace Header

/-- The authority the request goes to, from either place that may name it. -/
def requestAuthority (self : Header) : Except HeaderError Bytes :=
  match self.pseudo.authority, self.fields.get "host" with
  | none, none => .error .missingAuthority
  | some authority, none => .ok (asBytes authority)
  | none, some host => .ok host
  | some authority, some host =>
    if asBytes authority ≠ host then .error .contradictedAuthority else .ok host

def intoRequestParts (build : Builder) (self : Header) : Except HeaderError RequestParts := do
  let authority ← self.requestAuthority
  match self.pseudo.method with
  | none => .error .missingMethod
  | some method =>
    match build self.pseudo.path self.pseudo.scheme authority with
    | none => .error .invalidRequest
    | some uri => .ok ⟨method, uri, self.pseudo.protocol, self.fields⟩

def intoResponseParts (self : Header) : Except HeaderError (UInt16 × HeaderMap) :=
  match self.pseudo.status with
  | none => .error .missingStatus
  | some status => .ok (status, self.fields)

end Header
/-- The library reads the texts of a header as what they are the texts of. Names of fields are never
empty and never start with a colon. -/
structure HttpLibrary.Reads (http : HttpLibrary) (header : Header) : Prop where
  method : ∀ text, header.pseudo.method = some text → http.method (asBytes text) = some text
  scheme : ∀ text, header.pseudo.scheme = some text → http.scheme text = some text
  authority : ∀ text, header.pseudo.authority = some text → http.authority text = some text
  path : ∀ text, header.pseudo.path = some text → http.pathAndQuery text = some text
  status : ∀ status, header.pseudo.status = some status →
    http.status (asBytes (http.statusText status)) = some status
  names : ∀ field ∈ header.fields.iter, http.headerName (asBytes field.1) = some field.1 ∧
    ∃ first rest, asBytes field.1 = first :: rest ∧ first ≠ 58
  values : ∀ field ∈ header.fields.iter, http.headerValue field.2 = some field.2

namespace Header
variable {http : HttpLibrary} {self : Header}

theorem tryFromLoop_cons {field : HeaderField} {parsed : Field} (fields : List HeaderField)
    (accepted : Field.parse http field = .ok parsed) :
    tryFromLoop http self (field :: fields) = tryFromLoop http (self.insert parsed) fields := by
  rw [tryFromLoop, accepted]

/-- A pseudo-header that is there is taken in. -/
theorem tryFromLoop_pseudo {α : Type} {name : String} {value : Option α} (text : α → String)
    (take : α → Field) (rest : List HeaderField)
    (accepted : ∀ given, value = some given →
      Field.parse http ⟨asBytes name, asBytes (text given)⟩ = .ok (take given)) :
    tryFromLoop http self (pseudoField name text value ++ rest) =
      tryFromLoop http (value.elim self fun given => self.insert (take given)) rest := by
  cases value with
  | none => rfl
  | some given => exact tryFromLoop_cons rest (accepted given rfl)

theorem tryFromLoop_fields {fields : List (String × Bytes)}
    (names : ∀ field ∈ fields, http.headerName (asBytes field.1) = some field.1 ∧
      ∃ first rest, asBytes field.1 = first :: rest ∧ first ≠ 58)
    (values : ∀ field ∈ fields, http.headerValue field.2 = some field.2) :
    tryFromLoop http self (fields.map fun field => ⟨asBytes field.1, field.2⟩) =
      .ok ⟨self.pseudo, fields.foldl (fun map field => map.append field.1 field.2) self.fields⟩ := by
  induction fields generalizing self with
  | nil => rfl
  | cons field fields ih =>
    obtain ⟨name, first, rest, bytes, plain⟩ := names field (List.mem_cons_self ..)
    have parsed : Field.parse http ⟨asBytes field.1, field.2⟩ = .ok (.header field.1 field.2) := by
      simp only [Field.parse, name, values field (List.mem_cons_self ..), orInvalid, Except.map]
      rw [bytes]
      exact if_pos plain
    rw [List.map_cons, tryFromLoop_cons _ parsed,
      ih (fun other member => names other (List.mem_cons_of_mem _ member))
        (fun other member => values other (List.mem_cons_of_mem _ member))]
    rfl

/-- A name with a colon in front is looked up among the pseudo-headers. -/
theorem parse_pseudo {name value : Bytes} (colon : name.head? = some 58) :
    Field.parse http ⟨name, value⟩ =
      if name = asBytes ":scheme" then (tryValue ⟨name, value⟩ http.scheme).map .scheme
      else if name = asBytes ":authority" then (tryValue ⟨name, value⟩ http.authority).map .authority
      else if name = asBytes ":path" then (tryValue ⟨name, value⟩ http.pathAndQuery).map .path
      else if name = asBytes ":method" then (orInvalid ⟨name, value⟩ (http.method value)).map .method
      else if name = asBytes ":status" then (orInvalid ⟨name, value⟩ (http.status value)).map .status
      else if name = asBytes ":protocol" then (tryValue ⟨name, value⟩ Protocol.fromStr).map .protocol
      else .error (.invalidHeaderName name) := by
  obtain ⟨rest, rfl⟩ := List.head?_eq_some_iff.mp colon
  simp only [Field.parse, ne_eq, not_true_eq_false, if_false]

theorem tryValue_asBytes {α : Type} {name : Bytes} {text : String} {parse : String → Option α} {value : α}
    (read : parse text = some value) : tryValue ⟨name, asBytes text⟩ parse = .ok value := by
  rw [tryValue, fromUtf8_asBytes, Option.bind_some, read]
  rfl

/-- The fields of a message make up the message again. -/
theorem tryFromLoop_intoIter {header : Header} (reads : http.Reads header) :
    tryFromLoop http ⟨.default, .empty⟩ (header.intoIter http) = .ok header := by
  obtain ⟨⟨method, scheme, authority, path, status, protocol⟩, fields⟩ := header
  have methods (value : String) (given : method = some value) :
      Field.parse http ⟨asBytes ":method", asBytes value⟩ = .ok (.method value) := by
    rw [parse_pseudo (by decide), if_neg (by decide), if_neg (by decide), if_neg (by decide), if_pos rfl,
      reads.method value given]
    rfl
  have schemes (value : String) (given : scheme = some value) :
      Field.parse http ⟨asBytes ":scheme", asBytes value⟩ = .ok (.scheme value) := by
    rw [parse_pseudo (by decide), if_pos rfl, tryValue_asBytes (reads.scheme value given)]
    rfl
  have authorities (value : String) (given : authority = some value) :
      Field.parse http ⟨asBytes ":authority", asBytes value⟩ = .ok (.authority value) := by
    rw [parse_pseudo (by decide), if_neg (by decide), if_pos rfl,
      tryValue_asBytes (reads.authority value given)]
    rfl
  have paths (value : String) (given : path = some value) :
      Field.parse http ⟨asBytes ":path", asBytes value⟩ = .ok (.path value) := by
    rw [parse_pseudo (by decide), if_neg (by decide), if_neg (by decide), if_pos rfl,
      tryValue_asBytes (reads.path value given)]
    rfl
  have statuses (value : UInt16) (given : status = some value) :
      Field.parse http ⟨asBytes ":status", asBytes (http.statusText value)⟩ = .ok (.status value) := by
    rw [parse_pseudo (by decide), if_neg (by decide), if_neg (by decide), if_neg (by decide),
      if_neg (by decide), if_pos rfl, reads.status value given]
    rfl
  have protocols (value : Protocol) :
      Field.parse http ⟨asBytes ":protocol", asBytes value.asStr⟩ = .ok (.protocol value) := by
    rw [parse_pseudo (by decide), if_neg (by decide), if_neg (by decide), if_neg (by decide),
      if_neg (by decide), if_neg (by decide), if_pos rfl, tryValue_asBytes value.fromStr_asStr]
    rfl
  simp only [intoIter, List.append_assoc]
  rw [tryFromLoop_pseudo id .method _ methods, tryFromLoop_pseudo id .scheme _ schemes,
    tryFromLoop_pseudo id .authority _ authorities, tryFromLoop_pseudo id .path _ paths,
    tryFromLoop_pseudo http.statusText .status _ statuses,
    tryFromLoop_pseudo Protocol.asStr .protocol _ fun value _ => protocols value,
    tryFromLoop_fields reads.names reads.values]
  have whole : fields.iter.foldl (fun map field => map.append field.1 field.2) .empty = fields := fields.foldl_iter
  cases method <;> cases scheme <;> cases authority <;> cases path <;> cases status <;>
    cases protocol <;> exact congrArg (fun map => Except.ok (Header.mk _ map)) whole

theorem tryFrom_intoIter {header : Header} (reads : http.Reads header)
    (few : (header.intoIter http).length ≤ HeaderMap.maxCapacity) :
    tryFrom http (header.intoIter http) = some (.ok header) := by
  rw [tryFrom, HeaderMap.withCapacity, if_pos few, Option.map_some, tryFromLoop_intoIter reads]

theorem tryFrom_panics {fields : List HeaderField} (many : HeaderMap.maxCapacity < fields.length) :
    tryFrom http fields = none := by
  rw [tryFrom, HeaderMap.withCapacity, if_neg (Nat.not_le.mpr many), Option.map_none]

end Header

inductive Code where
  | h3InternalError
  | h3MessageError
  | qpackDecompressionFailed
  deriving DecidableEq, Repr

/-- "Malformed request with error: ", and the error, or "Received malformed header". -/
inductive Reason where
  | malformedRequest (error : HeaderError)
  | malformedHeader
  deriving DecidableEq, Repr

inductive StreamError where
  | streamError (code : Code) (reason : Reason)
  | remoteTerminate (code : Nat)
  | connectionError (code : Code) (message : String)
  | headerTooBig (actualSize maxSize : Nat)
  | remoteClosing
  | undefined (text : String)
  deriving DecidableEq, Repr

/-- The block of a header, unless the peer would refuse it. -/
def encodeSection (http : HttpLibrary) (maxFieldSectionSize : Nat) (header : Header) :
    Except StreamError Bytes :=
  let (block, memSize) := encodeStateless (header.intoIter http)
  if maxFieldSectionSize < memSize then .error (.headerTooBig memSize maxFieldSectionSize)
  else .ok block

/-- The fields of a block, in `accept_with_frame` as in `recv_response`. -/
def decodeSection (maxFieldSectionSize : Nat) (encoded : Bytes) : Except StreamError (List HeaderField) :=
  match decodeStateless encoded maxFieldSectionSize with
  | .error (.headerTooLong cancelSize) => .error (.headerTooBig cancelSize maxFieldSectionSize)
  | .error _ => .error (.connectionError .qpackDecompressionFailed "Failed to decode headers")
  | .ok decoded => .ok decoded.fields

/-- The block of the HEADERS frame that `send_request` writes. -/
def sendRequest (http : HttpLibrary) (peerMaxFieldSectionSize : Nat) (method : String) (uri : Uri)
    (headers : HeaderMap) (extensions : Option Protocol) : Except StreamError Bytes :=
  match Header.request http method uri headers extensions with
  | .error _ => .error (.connectionError .h3InternalError "Failed to build request headers")
  | .ok headers => encodeSection http peerMaxFieldSectionSize headers

/-- What the server makes of the block of a HEADERS frame, `none` if it panics. When the section is too
big it sends a response of status 431, and `answered` is what that send yields. -/
def resolveRequest (http : HttpLibrary) (build : Builder) (maxFieldSectionSize : Nat)
    (answered : Except StreamError Unit) (encoded : Bytes) : Option (Except StreamError RequestParts) :=
  match decodeSection maxFieldSectionSize encoded with
  | .error (.headerTooBig actualSize maxSize) =>
    some (answered.bind fun _ => .error (.headerTooBig actualSize maxSize))
  | .error error => some (.error error)
  | .ok fields => (Header.tryFrom http fields).map fun header =>
    match header.bind (Header.intoRequestParts build) with
    | .ok parts => .ok parts
    | .error error => .error (.streamError .h3MessageError (.malformedRequest error))

def sendResponse (http : HttpLibrary) (maxMemSize : Nat) (status : UInt16) (headers : HeaderMap) :
    Except StreamError Bytes :=
  encodeSection http maxMemSize (.response status headers)

/-- What the client makes of the block of a HEADERS frame, `none` if it panics. -/
def recvResponse (http : HttpLibrary) (maxFieldSectionSize : Nat) (encoded : Bytes) :
    Option (Except StreamError (UInt16 × HeaderMap)) :=
  match decodeSection maxFieldSectionSize encoded with
  | .error error => some (.error error)
  | .ok fields => (Header.tryFrom http fields).map fun header =>
    match header.bind Header.intoResponseParts with
    | .ok parts => .ok parts
    | .error _ => .error (.streamError .h3MessageError .malformedHeader)

section
variable {http : HttpLibrary} {build : Builder} {header : Header} {block : Bytes} {limit maxSize : Nat}
  {answered : Except StreamError Unit}

/-- The bytes that the fields of a header count for. -/
def Header.memSize (http : HttpLibrary) (header : Header) : Nat := totalSize (header.intoIter http)

/-- What the peer would take is sent. -/
theorem encodeSection_of_le (fits : header.memSize http ≤ limit) :
    encodeSection http limit header = .ok (encodeStateless (header.intoIter http)).1 :=
  if_neg (Nat.not_lt.mpr fits)

theorem encodeSection_eq_ok (sent : encodeSection http limit header = .ok block) :
    block = (encodeStateless (header.intoIter http)).1 ∧ header.memSize http ≤ limit := by
  simp only [encodeSection] at sent
  split_ifs at sent with long
  exact ⟨(Except.ok.inj sent).symm, Nat.not_lt.mp long⟩

theorem decodeSection_of_le (packable : ∀ field ∈ header.intoIter http, field.Packable)
    (sent : encodeSection http limit header = .ok block) (fits : header.memSize http ≤ maxSize) :
    decodeSection maxSize block = .ok (header.intoIter http) := by
  rw [decodeSection, (encodeSection_eq_ok sent).1, decodeStateless_of_le packable fits]

theorem decodeSection_of_lt (packable : ∀ field ∈ header.intoIter http, field.Packable)
    (sent : encodeSection http limit header = .ok block) (long : maxSize < header.memSize http) :
    ∃ size, maxSize < size ∧ size ≤ header.memSize http ∧
      decodeSection maxSize block = .error (.headerTooBig size maxSize) := by
  obtain ⟨front, field, back, split, before, after, failed⟩ := decodeStateless_of_lt packable long
  refine ⟨_, after, ?_, by rw [decodeSection, (encodeSection_eq_ok sent).1, failed]⟩
  rw [Header.memSize, split, totalSize_append, totalSize_append, totalSize_cons, totalSize_cons]
  exact Nat.add_le_add_left (Nat.add_le_add_left (Nat.zero_le _) _) _

/-- A header that is made goes where the URI says, or else the host field. -/
theorem Header.request_eq_ok {method : String} {uri : Uri} {fields : HeaderMap} {ext : Option Protocol}
    (made : Header.request http method uri fields ext = .ok header) :
    header = ⟨.request http method uri ext, fields⟩ ∧ ∃ authority,
      (uri.authority.map asBytes).or (fields.get "host") = some authority ∧
      header.requestAuthority = .ok authority := by
  have asked : (Pseudo.request http method uri ext).authority = uri.authority := rfl
  rw [Header.request] at made
  cases named : uri.authority with
  | none =>
    cases host : fields.get "host" with
    | none => simp [named, host] at made
    | some host' =>
      simp only [named, host] at made
      obtain rfl := Except.ok.inj made
      exact ⟨rfl, host', rfl, by simp [requestAuthority, asked, named, host]⟩
  | some authority =>
    cases host : fields.get "host" with
    | none =>
      simp only [named, host] at made
      obtain rfl := Except.ok.inj made
      exact ⟨rfl, asBytes authority, rfl, by simp [requestAuthority, asked, named, host]⟩
    | some host' =>
      simp only [named, host] at made
      split_ifs at made with contradicted
      obtain rfl := Except.ok.inj made
      have same : asBytes authority = host' := not_not.mp contradicted
      exact ⟨rfl, asBytes authority, rfl, by simp [requestAuthority, asked, named, host, same]⟩

theorem resolveRequest_of_fields {encoded : Bytes}
    (decoded : decodeSection maxSize encoded = .ok (header.intoIter http)) (reads : http.Reads header)
    (few : (header.intoIter http).length ≤ HeaderMap.maxCapacity) :
    resolveRequest http build maxSize answered encoded = some
      ((header.intoRequestParts build).mapError (StreamError.streamError .h3MessageError ∘ .malformedRequest)) := by
  simp only [resolveRequest, decoded, Header.tryFrom_intoIter reads few, Option.map_some, Except.bind]
  cases header.intoRequestParts build <;> rfl

theorem recvResponse_of_fields {encoded : Bytes}
    (decoded : decodeSection maxSize encoded = .ok (header.intoIter http)) (reads : http.Reads header)
    (few : (header.intoIter http).length ≤ HeaderMap.maxCapacity) :
    recvResponse http maxSize encoded = some
      (header.intoResponseParts.mapError fun _ => StreamError.streamError .h3MessageError .malformedHeader) := by
  simp only [recvResponse, decoded, Header.tryFrom_intoIter reads few, Option.map_some, Except.bind]
  cases header.intoResponseParts <;> rfl

/-- A request that is sent arrives at a server whose limit it keeps as what the server's library builds of
it, if the server's header map has room for its fields; otherwise the server panics. If its URI says
everything, and is built of what it says, the request arrives as it was sent. Beyond the limit the
server tells that it is too big, unless the answer it owes the client first cannot be sent. -/
theorem request_resolved {method : String} {uri : Uri} {fields : HeaderMap} {ext : Option Protocol}
    (sent : sendRequest http limit method uri fields ext = .ok block)
    (made : Header.request http method uri fields ext = .ok header) (reads : http.Reads header)
    (packable : ∀ field ∈ header.intoIter http, field.Packable) :
    (header.memSize http ≤ maxSize → (header.intoIter http).length ≤ HeaderMap.maxCapacity → ∃ authority,
      (uri.authority.map asBytes).or (fields.get "host") = some authority ∧
      (∀ built, build header.pseudo.path header.pseudo.scheme authority = some built →
        resolveRequest http build maxSize answered block =
          some (.ok ⟨method, built, header.pseudo.protocol, fields⟩)) ∧
      (build header.pseudo.path header.pseudo.scheme authority = none →
        resolveRequest http build maxSize answered block =
          some (.error (.streamError .h3MessageError (.malformedRequest .invalidRequest))))) ∧
    (header.memSize http ≤ maxSize → (header.intoIter http).length ≤ HeaderMap.maxCapacity →
      ∀ scheme authority path, uri = ⟨some scheme, some authority, some path⟩ →
      http.path path ≠ "" → (method = "CONNECT" → ext ≠ none) →
      build (some path) (some scheme) (asBytes authority) = some uri →
        resolveRequest http build maxSize answered block =
          some (.ok ⟨method, uri, if method = "CONNECT" then ext else none, fields⟩)) ∧
    (header.memSize http ≤ maxSize → HeaderMap.maxCapacity < (header.intoIter http).length →
      resolveRequest http build maxSize answered block = none) ∧
    (maxSize < header.memSize http → ∃ size, maxSize < size ∧ size ≤ header.memSize http ∧
      (answered = .ok () →
        resolveRequest http build maxSize answered block = some (.error (.headerTooBig size maxSize))) ∧
      ∀ error, answered = .error error →
        resolveRequest http build maxSize answered block = some (.error error)) := by
  rw [sendRequest, made] at sent
  obtain ⟨whole, authority, named, goes⟩ := Header.request_eq_ok made
  have asked : header.pseudo.method = some method := by rw [whole]; rfl
  have carried : header.fields = fields := by rw [whole]
  have resolved (fits : header.memSize http ≤ maxSize)
      (few : (header.intoIter http).length ≤ HeaderMap.maxCapacity) :
      resolveRequest http build maxSize answered block = some
        ((build header.pseudo.path header.pseudo.scheme authority).elim
          (.error (.streamError .h3MessageError (.malformedRequest .invalidRequest)))
          fun built => .ok ⟨method, built, header.pseudo.protocol, fields⟩) := by
    have parts : header.intoRequestParts build =
        (build header.pseudo.path header.pseudo.scheme authority).elim (.error .invalidRequest)
          fun built => .ok ⟨method, built, header.pseudo.protocol, fields⟩ := by
      rw [Header.intoRequestParts, goes, asked, carried]
      simp only [bind, Except.bind]
      cases build header.pseudo.path header.pseudo.scheme authority <;> rfl
    rw [resolveRequest_of_fields (decodeSection_of_le packable sent fits) reads few, parts]
    cases build header.pseudo.path header.pseudo.scheme authority <;> rfl
  refine ⟨fun fits few => ⟨authority, named, ?_, ?_⟩, ?_, ?_, ?_⟩
  · intro built found
    rw [resolved fits few, found]
    rfl
  · intro refused
    rw [resolved fits few, refused]
    rfl
  · rintro fits few scheme host path rfl located extended built
    obtain rfl := Option.some.inj named
    have given : Pseudo.request http method ⟨some scheme, some host, some path⟩ ext =
        ⟨some method, some scheme, some host, some path, none, if method = "CONNECT" then ext else none⟩ := by
      by_cases connect : method = "CONNECT"
      · simp [Pseudo.request, located, connect, extended connect]
      · simp [Pseudo.request, located, connect]
    rw [resolved fits few, whole, given, built]
    rfl
  · intro fits many
    rw [resolveRequest, decodeSection_of_le packable sent fits]
    dsimp only
    rw [Header.tryFrom_panics many, Option.map_none]
  · intro long
    obtain ⟨size, above, below, refused⟩ := decodeSection_of_lt packable sent long
    refine ⟨size, above, below, ?_, ?_⟩
    · rintro rfl
      rw [resolveRequest, refused]
      rfl
    · rintro error rfl
      rw [resolveRequest, refused]
      rfl

/-- A response that is sent arrives as it was sent at a client whose limit it keeps and whose header map
has room for its fields; the client panics if it has not. -/
theorem response_received {status : UInt16} {fields : HeaderMap}
    (sent : sendResponse http limit status fields = .ok block)
    (reads : http.Reads (.response status fields))
    (packable : ∀ field ∈ (Header.response status fields).intoIter http, field.Packable) :
    ((Header.response status fields).memSize http ≤ maxSize →
      ((Header.response status fields).intoIter http).length ≤ HeaderMap.maxCapacity →
      recvResponse http maxSize block = some (.ok (status, fields))) ∧
    ((Header.response status fields).memSize http ≤ maxSize →
      HeaderMap.maxCapacity < ((Header.response status fields).intoIter http).length →
      recvResponse http maxSize block = none) ∧
    (maxSize < (Header.response status fields).memSize http → ∃ size, maxSize < size ∧
      size ≤ (Header.response status fields).memSize http ∧
      recvResponse http maxSize block = some (.error (.headerTooBig size maxSize))) := by
  refine ⟨?_, ?_, ?_⟩
  · intro fits few
    rw [recvResponse_of_fields (decodeSection_of_le packable sent fits) reads few]
    rfl
  · intro fits many
    rw [recvResponse, decodeSection_of_le packable sent fits]
    dsimp only
    rw [Header.tryFrom_panics many, Option.map_none]
  · intro long
    obtain ⟨size, above, below, refused⟩ := decodeSection_of_lt packable sent long
    exact ⟨size, above, below, by rw [recvResponse, refused]⟩

end

/-- A library that takes every text for what it says; it knows no queries, and one status. -/
def plainLibrary : HttpLibrary where
  method := fromUtf8
  scheme := some
  authority := some
  pathAndQuery := some
  status := fun text => if text = asBytes "233" then some 233 else none
  statusText := fun _ => "233"
  headerName := fromUtf8
  headerValue := some
  path := id

def plainBuilder : Builder := fun path scheme authority =>
  (fromUtf8 authority).map fun authority => ⟨scheme, some authority, path⟩

/-- A map of one field, under a name that no pseudo-header has. -/
def oneField (name value : String) : HeaderMap := ⟨[⟨name, asBytes value, []⟩], List.nodup_singleton _⟩

theorem plainLibrary_reads {pseudo : Pseudo} {name value : String} {first : UInt8} {rest : Bytes}
    (bytes : asBytes name = first :: rest) (plain : first ≠ 58)
    (status : ∀ status, pseudo.status = some status → status = 233) :
    plainLibrary.Reads ⟨pseudo, oneField name value⟩ where
  method := fun text _ => fromUtf8_asBytes text
  scheme := fun _ _ => rfl
  authority := fun _ _ => rfl
  path := fun _ _ => rfl
  status := fun given same => by
    rw [status given same]
    rfl
  names := by
    intro field member
    obtain rfl := List.mem_singleton.mp member
    exact ⟨fromUtf8_asBytes name, first, rest, bytes, plain⟩
  values := fun _ _ => rfl

theorem packable_intoIter {http : HttpLibrary} {header : Header} (small : header.memSize http < 2 ^ 27) :
    ∀ field ∈ header.intoIter http, field.Packable :=
  fun _ member => packable_of_memSize (Nat.lt_of_le_of_lt (memSize_le_totalSize member) small)

def authUri : Uri := ⟨some "https", some "hysteria", some "/auth"⟩

def authHeader : Header :=
  ⟨⟨some "POST", some "https", some "hysteria", some "/auth", none, none⟩, oneField "hysteria-auth" "secret"⟩

theorem authHeader_made : Header.request plainLibrary "POST" authUri (oneField "hysteria-auth" "secret") none =
    .ok authHeader := by decide

theorem authHeader_sent : sendRequest plainLibrary 4096 "POST" authUri (oneField "hysteria-auth" "secret") none =
    .ok (encodeStateless (authHeader.intoIter plainLibrary)).1 := by
  rw [sendRequest, authHeader_made]
  exact encodeSection_of_le (by decide +kernel)

theorem request_resolved_auth :
    resolveRequest plainLibrary plainBuilder 4096 (.ok ()) (encodeStateless (authHeader.intoIter plainLibrary)).1 =
      some (.ok ⟨"POST", authUri, none, oneField "hysteria-auth" "secret"⟩) :=
  (request_resolved authHeader_sent authHeader_made (plainLibrary_reads rfl (by decide) nofun)
    (packable_intoIter (by decide +kernel))).2.1 (by decide +kernel) (by decide) "https" "hysteria" "/auth" rfl
    (by decide) (by decide) rfl

def authAnswer : Header := .response 233 (oneField "hysteria-udp" "true")

theorem authAnswer_sent : sendResponse plainLibrary 4096 233 (oneField "hysteria-udp" "true") =
    .ok (encodeStateless (authAnswer.intoIter plainLibrary)).1 :=
  encodeSection_of_le (by decide +kernel)

theorem response_received_auth :
    recvResponse plainLibrary 4096 (encodeStateless (authAnswer.intoIter plainLibrary)).1 =
      some (.ok (233, oneField "hysteria-udp" "true")) :=
  (response_received authAnswer_sent (plainLibrary_reads rfl (by decide) fun _ same => (Option.some.inj same).symm)
    (packable_intoIter (by decide +kernel))).1 (by decide +kernel) (by decide)

end SingQuic.H3
