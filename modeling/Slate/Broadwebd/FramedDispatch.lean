import Slate.Broadwebd.FrameRoundTrip
import Slate.Storage.ObjectJson

/-!
# Transparent service frames

A request over frames is answered as the inner client answers it when both frames are
carried, and it reaches the inner client only if its own frame is. A sequence of messages is
read from a stream as it was written, whatever chunks the stream makes.
-/

namespace Slate.Broadwebd

open Slate.Foundation

section InProcess

namespace InProcessServiceFrameStream

variable {Request Response σ : Type} {codec : ServiceFrameCodec Request Response}
  {handler : ServiceHandler Request Response σ} {stream : InProcessServiceFrameStream σ}
  {request : Request} {response : Response} {after : σ}

/-- A prepared stream hands out the response and calls nobody. -/
theorem source_delivers (handlerState : σ) : (source codec handler).Delivers
    (fun stream => stream.responseReady = true ∧ stream.handlerState = handlerState)
    (fun stream => stream.responseBytes) where
  part stream asked good positive nonempty := by
    obtain ⟨part, left, read, -, partNonempty, atMost, split⟩ :=
      cursorSource_delivers.part stream.responseBytes asked trivial positive nonempty
    cases read
    refine ⟨stream.responseBytes.take asked,
      { stream with responseBytes := stream.responseBytes.drop asked }, ?_, good, partNonempty,
      atMost, split⟩
    have prepared : prepareResponse codec handler stream = .ok () stream := by
      rw [prepareResponse, if_pos good.1]
    unfold source
    rw [bind_eq_of_ok prepared]
    rfl

/-- The stream with more of the request. -/
def receive (bytes : List Nat) (stream : InProcessServiceFrameStream σ) :
    InProcessServiceFrameStream σ :=
  { stream with requestBytes := stream.requestBytes ++ bytes }

theorem sink_writeAll (notReady : stream.responseReady = false) (bytes : List Nat) :
    (sink codec handler).writeAll bytes stream = .ok () (stream.receive bytes) := by
  unfold ByteSink.writeAll
  by_cases empty : bytes = []
  · rw [if_pos empty, empty, receive, List.append_nil]
    rfl
  · rw [if_neg empty]
    exact if_neg (by rw [notReady]; exact Bool.false_ne_true)

/-- The stream that has the frame of a request. -/
def holding (frame : List Nat) (state : σ) : InProcessServiceFrameStream σ :=
  { new state with requestBytes := framed frame }

/-- A carried request is written into the stream, which then calls the handler. -/
theorem writeRequest_eq (roundTrips : codec.json.requests.RoundTrips)
    (carries : codec.json.requests.Carries codec.maxFrameBytes request) (state : σ) :
    codec.writeRequest (sink codec handler) request (new state) =
      io (prepareResponse codec handler)
        (holding (codec.json.requests.encoding request) state) := by
  have started : (new state).responseReady = false := rfl
  have isWritten : codec.writeRequest (sink codec handler) request (new state) =
      writeLenPrefixedFrame (sink codec handler) (codec.json.requests.encoding request)
        (new state) := writeValue_of_carries roundTrips carries _ _
  have writesLength := @sink_writeAll _ _ _ codec handler _ started
    (toBeBytes (codec.json.requests.encoding request).length)
  have writesFrame := @sink_writeAll _ _ _ codec handler
    ((new state).receive (toBeBytes (codec.json.requests.encoding request).length)) started
    (codec.json.requests.encoding request)
  rw [isWritten, writeLenPrefixedFrame_eq carries.2 writesLength writesFrame]
  rfl

/-- What a stream with a carried request does once it is flushed. -/
theorem prepareResponse_holding (roundTrips : codec.json.requests.RoundTrips)
    (carries : codec.json.requests.Carries codec.maxFrameBytes request) (state : σ) :
    prepareResponse codec handler (holding (codec.json.requests.encoding request) state) =
      match handler request state with
      | .error error handlerState =>
          .error error.text
            { holding (codec.json.requests.encoding request) state with handlerState }
      | .ok response handlerState =>
          match codec.writeResponse bufferSink response [] with
          | .error error _ =>
              .error error.text
                { holding (codec.json.requests.encoding request) state with handlerState }
          | .ok _ responseBytes =>
              .ok ()
                { holding (codec.json.requests.encoding request) state with
                  responseBytes, responseReady := true, handlerState } := by
  have isContents : framed (codec.json.requests.encoding request) =
      framed (codec.json.requests.encoding request) ++ [] := (List.append_nil _).symm
  obtain ⟨next, read, -, -⟩ :=
    readValue_framed roundTrips carries cursorSource_delivers trivial isContents
  have isRead : codec.readRequest cursorSource
      (framed (codec.json.requests.encoding request)) = .ok request next := read
  unfold prepareResponse
  cases handled : handler request state with
  | error error handlerState => simp [holding, new, isRead, handled]
  | ok response handlerState =>
      cases written : codec.writeResponse bufferSink response [] with
      | error error buffer => simp [holding, new, isRead, handled, written]
      | ok _ responseBytes => simp [holding, new, isRead, handled, written]

/-- A carried response is read from the stream that was prepared with it. -/
theorem readResponse_eq (roundTrips : codec.json.responses.RoundTrips)
    (carries : codec.json.responses.Carries codec.maxFrameBytes response)
    (ready : stream.responseReady = true)
    (isContents : stream.responseBytes = framed (codec.json.responses.encoding response)) :
    ∃ left, codec.readResponse (source codec handler) stream = .ok response left ∧
      left.handlerState = stream.handlerState := by
  rw [← List.append_nil (framed _)] at isContents
  obtain ⟨left, read, ⟨-, same⟩, -⟩ := readValue_framed roundTrips carries
    (source_delivers stream.handlerState) ⟨ready, rfl⟩ isContents
  exact ⟨left, read, same⟩

end InProcessServiceFrameStream

end InProcess

section Dispatch

variable {Request Response σ : Type} {codec : ServiceFrameCodec Request Response}
  {inner : ServiceHandler Request Response σ} {state after : σ} {request : Request}
  {response : Response}

open InProcessServiceFrameStream

/-- The request has a frame. -/
def ServiceFrameCodec.CarriesRequest (codec : ServiceFrameCodec Request Response)
    (request : Request) : Prop :=
  codec.json.requests.Carries codec.maxFrameBytes request

def ServiceFrameCodec.CarriesResponse (codec : ServiceFrameCodec Request Response)
    (response : Response) : Prop :=
  codec.json.responses.Carries codec.maxFrameBytes response

structure ServiceJson.RoundTrips (json : ServiceJson Request Response) : Prop where
  requests : json.requests.RoundTrips
  responses : json.responses.RoundTrips

variable (roundTrips : codec.json.RoundTrips)

include roundTrips

/-- The inner client is not called with a request that is not carried. -/
theorem serviceFrameDispatch_of_not_carries (notCarried : ¬ codec.CarriesRequest request) :
    ∃ error, serviceFrameDispatch codec inner request state = .error error state := by
  obtain ⟨error, rejected⟩ := @writeValue_of_not_carries _ _ _ _ _ "request"
    roundTrips.requests notCarried (sink codec inner) (new state)
  have fails : dispatchServiceFrameRequestOverStream codec (source codec inner)
      (sink codec inner) request (new state) = .error error (new state) :=
    bind_eq_of_error rejected
  refine ⟨error, ?_⟩
  rw [serviceFrameDispatch, fails]
  rfl

theorem serviceFrameDispatch_of_error (carries : codec.CarriesRequest request)
    {error : BroadwebdError} (fails : inner request state = .error error after) :
    serviceFrameDispatch codec inner request state = .error (.io error.text) after := by
  have prepared := @prepareResponse_holding _ _ _ codec inner _ roundTrips.requests carries state
  rw [fails] at prepared
  have written := @writeRequest_eq _ _ _ codec inner _ roundTrips.requests carries state
  rw [io_eq_error prepared] at written
  rw [serviceFrameDispatch, dispatchServiceFrameRequestOverStream, bind_eq_of_error written]

theorem serviceFrameDispatch_of_large (carries : codec.CarriesRequest request)
    (answers : inner request state = .ok response after)
    (notCarried : ¬ codec.CarriesResponse response) :
    ∃ error, serviceFrameDispatch codec inner request state = .error error after := by
  obtain ⟨error, rejected⟩ := @writeValue_of_not_carries _ _ _ _ _ "response"
    roundTrips.responses notCarried bufferSink []
  have isRejected : codec.writeResponse bufferSink response [] = .error error [] := rejected
  have prepared := @prepareResponse_holding _ _ _ codec inner _ roundTrips.requests carries state
  rw [answers] at prepared
  dsimp only at prepared
  rw [isRejected] at prepared
  have written := @writeRequest_eq _ _ _ codec inner _ roundTrips.requests carries state
  rw [io_eq_error prepared] at written
  refine ⟨.io error.text, ?_⟩
  rw [serviceFrameDispatch, dispatchServiceFrameRequestOverStream, bind_eq_of_error written]

theorem serviceFrameDispatch_of_carries (carriesRequest : codec.CarriesRequest request)
    (answers : inner request state = .ok response after)
    (carriesResponse : codec.CarriesResponse response) :
    serviceFrameDispatch codec inner request state = .ok response after := by
  have written : codec.writeResponse bufferSink response [] =
      .ok () (framed (codec.json.responses.encoding response)) :=
    writeValue_bufferSink roundTrips.responses carriesResponse []
  have prepared := @prepareResponse_holding _ _ _ codec inner _ roundTrips.requests
    carriesRequest state
  rw [answers] at prepared
  dsimp only at prepared
  rw [written] at prepared
  have flushed := @writeRequest_eq _ _ _ codec inner _ roundTrips.requests carriesRequest state
  rw [io_eq_ok prepared] at flushed
  obtain ⟨left, read, same⟩ := @readResponse_eq _ _ _ codec inner
    { holding (codec.json.requests.encoding request) state with
      responseBytes := framed (codec.json.responses.encoding response)
      responseReady := true
      handlerState := after } _ roundTrips.responses carriesResponse rfl rfl
  rw [serviceFrameDispatch, dispatchServiceFrameRequestOverStream, bind_eq_of_ok flushed, read]
  dsimp only
  rw [same]

/-- The answer of the inner client comes through if and only if both frames are carried. -/
theorem serviceFrameDispatch_eq_ok_iff :
    serviceFrameDispatch codec inner request state = .ok response after ↔
      codec.CarriesRequest request ∧ codec.CarriesResponse response ∧
        inner request state = .ok response after := by
  constructor
  · intro succeeds
    by_cases carriesRequest : codec.CarriesRequest request
    · cases answers : inner request state with
      | error error failed =>
          rw [serviceFrameDispatch_of_error roundTrips carriesRequest answers] at succeeds
          cases succeeds
      | ok answer answered =>
          by_cases carriesResponse : codec.CarriesResponse answer
          · rw [serviceFrameDispatch_of_carries roundTrips carriesRequest answers
              carriesResponse] at succeeds
            cases succeeds
            exact ⟨carriesRequest, carriesResponse, rfl⟩
          · obtain ⟨error, fails⟩ :=
              serviceFrameDispatch_of_large roundTrips carriesRequest answers carriesResponse
            rw [fails] at succeeds
            cases succeeds
    · obtain ⟨error, fails⟩ :=
        @serviceFrameDispatch_of_not_carries _ _ _ _ inner state _ roundTrips carriesRequest
      rw [fails] at succeeds
      cases succeeds
  · rintro ⟨carriesRequest, carriesResponse, answers⟩
    exact serviceFrameDispatch_of_carries roundTrips carriesRequest answers carriesResponse

omit roundTrips

/-- The inner client that notes the requests it is called with. -/
def recording (inner : ServiceHandler Request Response σ) :
    ServiceHandler Request Response (σ × List Request) :=
  fun request state =>
    match inner request state.1 with
    | .ok response after => .ok response (after, state.2 ++ [request])
    | .error error after => .error error (after, state.2 ++ [request])

/-- The calls of the inner client in one dispatch. -/
def callsOf (codec : ServiceFrameCodec Request Response)
    (inner : ServiceHandler Request Response σ) (request : Request) (state : σ) : List Request :=
  (stateAfter (serviceFrameDispatch codec (recording inner) request) (state, [])).2

theorem callsOf_of_ok {calls : List Request}
    (answered : serviceFrameDispatch codec (recording inner) request (state, []) =
      .ok response (after, calls)) : callsOf codec inner request state = calls := by
  have left : stateAfter (serviceFrameDispatch codec (recording inner) request) (state, []) =
      (after, calls) := stateAfter_of_ok answered
  rw [callsOf, left]

theorem callsOf_of_error {calls : List Request} {error : BroadwebdError}
    (failed : serviceFrameDispatch codec (recording inner) request (state, []) =
      .error error (after, calls)) : callsOf codec inner request state = calls := by
  have left : stateAfter (serviceFrameDispatch codec (recording inner) request) (state, []) =
      (after, calls) := stateAfter_of_error failed
  rw [callsOf, left]

include roundTrips

theorem callsOf_of_not_carries (notCarried : ¬ codec.CarriesRequest request) :
    callsOf codec inner request state = [] := by
  obtain ⟨error, failed⟩ := @serviceFrameDispatch_of_not_carries _ _ _ _ (recording inner)
    (state, []) _ roundTrips notCarried
  exact callsOf_of_error failed

theorem callsOf_of_carries (carries : codec.CarriesRequest request) :
    callsOf codec inner request state = [request] := by
  cases answers : inner request state with
  | error error after =>
      have noted : recording inner request (state, []) = .error error (after, [request]) := by
        rw [recording, answers]
        rfl
      exact callsOf_of_error (serviceFrameDispatch_of_error roundTrips carries noted)
  | ok response after =>
      have noted : recording inner request (state, []) = .ok response (after, [request]) := by
        rw [recording, answers]
        rfl
      by_cases carriesResponse : codec.CarriesResponse response
      · exact callsOf_of_ok
          (serviceFrameDispatch_of_carries roundTrips carries noted carriesResponse)
      · obtain ⟨error, failed⟩ :=
          serviceFrameDispatch_of_large roundTrips carries noted carriesResponse
        exact callsOf_of_error failed

end Dispatch

section Messages

variable {Request Response σ : Type}

inductive ServiceMessage (Request Response : Type) where
  | request (request : Request)
  | response (response : Response)

inductive MessageKind where
  | request
  | response

def ServiceMessage.kind : ServiceMessage Request Response → MessageKind
  | .request _ => .request
  | .response _ => .response

namespace ServiceFrameCodec

variable (codec : ServiceFrameCodec Request Response)

def writeMessage (sink : ByteSink σ) :
    ServiceMessage Request Response → EStateM BroadwebdError σ Unit
  | .request request => codec.writeRequest sink request
  | .response response => codec.writeResponse sink response

def readMessage (source : ByteSource σ) :
    MessageKind → EStateM BroadwebdError σ (ServiceMessage Request Response)
  | .request => do pure (.request (← codec.readRequest source))
  | .response => do pure (.response (← codec.readResponse source))

def writeMessages (sink : ByteSink σ) :
    List (ServiceMessage Request Response) → EStateM BroadwebdError σ Unit
  | [] => pure ()
  | message :: messages => do
      codec.writeMessage sink message
      writeMessages sink messages

def readMessages (source : ByteSource σ) :
    List MessageKind → EStateM BroadwebdError σ (List (ServiceMessage Request Response))
  | [] => pure []
  | kind :: kinds => do
      let message ← codec.readMessage source kind
      let messages ← readMessages source kinds
      pure (message :: messages)

variable {codec}

/-- The frame of a message. -/
def frameOf (codec : ServiceFrameCodec Request Response) :
    ServiceMessage Request Response → List Nat
  | .request request => framed (codec.json.requests.encoding request)
  | .response response => framed (codec.json.responses.encoding response)

def CarriesMessage (codec : ServiceFrameCodec Request Response) :
    ServiceMessage Request Response → Prop
  | .request request => codec.CarriesRequest request
  | .response response => codec.CarriesResponse response

variable (roundTrips : codec.json.RoundTrips)

include roundTrips

theorem writeMessage_eq_ok_iff {message : ServiceMessage Request Response}
    {buffer after : List Nat} :
    codec.writeMessage bufferSink message buffer = .ok () after ↔
      codec.CarriesMessage message ∧ after = buffer ++ codec.frameOf message := by
  cases message with
  | request request =>
      exact writeValue_bufferSink_eq_ok_iff roundTrips.requests
  | response response =>
      exact writeValue_bufferSink_eq_ok_iff roundTrips.responses

theorem readMessage_frameOf {message : ServiceMessage Request Response}
    (carries : codec.CarriesMessage message) {source : ByteSource σ} {Good : σ → Prop}
    {contents : σ → List Nat} (delivers : source.Delivers Good contents) {state : σ}
    {rest : List Nat} (good : Good state)
    (isContents : contents state = codec.frameOf message ++ rest) :
    ∃ next, codec.readMessage source message.kind state = .ok message next ∧ Good next ∧
      contents next = rest := by
  cases message with
  | request request =>
      obtain ⟨next, read, goodNext, left⟩ :=
        readValue_framed roundTrips.requests carries delivers good isContents
      have isRead : codec.readRequest source state = .ok request next := read
      exact ⟨next, bind_eq_of_ok isRead, goodNext, left⟩
  | response response =>
      obtain ⟨next, read, goodNext, left⟩ :=
        readValue_framed roundTrips.responses carries delivers good isContents
      have isRead : codec.readResponse source state = .ok response next := read
      exact ⟨next, bind_eq_of_ok isRead, goodNext, left⟩

theorem writeMessages_eq_ok {messages : List (ServiceMessage Request Response)}
    {buffer after : List Nat}
    (written : codec.writeMessages bufferSink messages buffer = .ok () after) :
    (∀ message ∈ messages, codec.CarriesMessage message) ∧
      after = buffer ++ messages.flatMap codec.frameOf := by
  induction messages generalizing buffer with
  | nil =>
      cases written
      exact ⟨fun _ isMessage => absurd isMessage List.not_mem_nil, (List.append_nil _).symm⟩
  | cons message messages inductionHypothesis =>
      obtain ⟨_, middle, first, others⟩ := run_bind_eq_ok_iff.mp written
      obtain ⟨carries, rfl⟩ := (writeMessage_eq_ok_iff roundTrips).mp first
      obtain ⟨carriesOthers, isAfter⟩ := inductionHypothesis others
      refine ⟨List.forall_mem_cons.mpr ⟨carries, carriesOthers⟩, ?_⟩
      rw [isAfter, List.flatMap_cons, List.append_assoc]

/-- Frames are read one after the other, and nothing behind them. -/
theorem readMessages_flatMap_frameOf {messages : List (ServiceMessage Request Response)}
    (carries : ∀ message ∈ messages, codec.CarriesMessage message) {source : ByteSource σ}
    {Good : σ → Prop} {contents : σ → List Nat} (delivers : source.Delivers Good contents)
    {state : σ} {rest : List Nat} (good : Good state)
    (isContents : contents state = messages.flatMap codec.frameOf ++ rest) :
    ∃ next, codec.readMessages source (messages.map (·.kind)) state = .ok messages next ∧
      Good next ∧ contents next = rest := by
  induction messages generalizing state with
  | nil => exact ⟨state, rfl, good, isContents⟩
  | cons message messages inductionHypothesis =>
      obtain ⟨first, others⟩ := List.forall_mem_cons.mp carries
      rw [List.flatMap_cons, List.append_assoc] at isContents
      obtain ⟨middle, readFirst, goodMiddle, left⟩ :=
        readMessage_frameOf roundTrips first delivers good isContents
      obtain ⟨next, readOthers, goodNext, leftNext⟩ := inductionHypothesis others goodMiddle left
      refine ⟨next, ?_, goodNext, leftNext⟩
      rw [List.map_cons, readMessages, bind_eq_of_ok readFirst, bind_eq_of_ok readOthers]
      rfl

end ServiceFrameCodec

end Messages

/-- Over frames the inner client answers as without them if both frames are carried, a
request that is not carried does not reach it and any other reaches it once. Messages written
to a stream are read from every chunking of it, up to the last written byte. -/
theorem serviceFrames_transparent {Request Response : Type}
    {codec : ServiceFrameCodec Request Response} (roundTrips : codec.json.RoundTrips) :
    (∀ {σ : Type} (inner : ServiceHandler Request Response σ) (request : Request) (state : σ),
      (∀ response after, serviceFrameDispatch codec inner request state = .ok response after ↔
        codec.CarriesRequest request ∧ codec.CarriesResponse response ∧
          inner request state = .ok response after) ∧
      (¬ codec.CarriesRequest request → callsOf codec inner request state = []) ∧
      (codec.CarriesRequest request → callsOf codec inner request state = [request])) ∧
    ∀ messages bytes, codec.writeMessages bufferSink messages [] = .ok () bytes →
      ∀ chunks rest, (∀ chunk ∈ chunks, chunk ≠ []) → chunks.flatten = bytes ++ rest →
        ∃ left, codec.readMessages chunkSource (messages.map (·.kind)) chunks =
          .ok messages left ∧ left.flatten = rest := by
  constructor
  · intro σ inner request state
    exact ⟨fun _ _ => serviceFrameDispatch_eq_ok_iff roundTrips,
      callsOf_of_not_carries roundTrips, callsOf_of_carries roundTrips⟩
  · intro messages bytes written chunks rest nonempty isChunks
    obtain ⟨carries, rfl⟩ := ServiceFrameCodec.writeMessages_eq_ok roundTrips written
    rw [List.nil_append] at isChunks
    obtain ⟨left, read, -, isRest⟩ := ServiceFrameCodec.readMessages_flatMap_frameOf roundTrips
      carries chunkSource_delivers nonempty isChunks
    exact ⟨left, read, isRest⟩

section PutObject

open Slate.Storage

/-- A request to put an object, as `ServiceRequest::ProfileSync` holds it. -/
structure ProfileSyncPutObjectRequest where
  profile : String
  bytes : List UInt8

namespace ProfileSyncPutObjectRequest

def toJson (request : ProfileSyncPutObjectRequest) : Json :=
  .object [("ProfileSync", .object [("PutEncryptedObject", .object
    [("profile", .string request.profile),
      ("bytes", bytesToJson (request.bytes.map UInt8.toNat))])])]

def ofJson (value : Json) : Except String ProfileSyncPutObjectRequest := do
  let service ← Json.asFields value
  let operation ← Json.required Json.asFields "ProfileSync" service
  let fields ← Json.required Json.asFields "PutEncryptedObject" operation
  let profile ← Json.required Json.asString "profile" fields
  let bytes ← Json.required asBytes "bytes" fields
  pure ⟨profile, bytes.map UInt8.ofNat⟩

theorem ofJson_toJson (request : ProfileSyncPutObjectRequest) :
    ofJson request.toJson = .ok request := by
  have fits : ∀ byte ∈ request.bytes.map UInt8.toNat, byte ≤ u8Max := by
    intro byte isByte
    obtain ⟨original, -, rfl⟩ := List.mem_map.mp isByte
    exact Nat.le_of_lt_succ original.toNat_lt
  have bytes := asBytes_bytesToJson fits
  have restored : (request.bytes.map UInt8.toNat).map UInt8.ofNat = request.bytes := by
    simp [List.map_map, Function.comp_def]
  simp only [ofJson, toJson, Json.asFields, Json.required, Json.field?, Json.asString, bytes,
    restored, bind, Except.bind, pure, Except.pure, List.filter, decide_true, decide_false,
    String.reduceEq]

end ProfileSyncPutObjectRequest

/-- The response to it: the object id. -/
structure ProfileSyncPutObjectResponse where
  objectId : String

namespace ProfileSyncPutObjectResponse

def toJson (response : ProfileSyncPutObjectResponse) : Json :=
  .object [("ProfileSync", .object [("PutEncryptedObject", .object
    [("object_id", .string response.objectId)])])]

def ofJson (value : Json) : Except String ProfileSyncPutObjectResponse := do
  let service ← Json.asFields value
  let operation ← Json.required Json.asFields "ProfileSync" service
  let fields ← Json.required Json.asFields "PutEncryptedObject" operation
  let objectId ← Json.required Json.asString "object_id" fields
  pure ⟨objectId⟩

theorem ofJson_toJson (response : ProfileSyncPutObjectResponse) :
    ofJson response.toJson = .ok response := by
  simp [ofJson, toJson, Json.asFields, Json.required, Json.field?, Json.asString, bind,
    Except.bind, pure, Except.pure]

end ProfileSyncPutObjectResponse

/-- The compact encoding of a type that is written as JSON. -/
def compactSerde {Value : Type} (toJson : Value → Json) (ofJson : Json → Except String Value) :
    Serde Value where
  toWriter value := ([JsonFormat.compact.toBytes (toJson value)], none)
  fromSlice bytes := (JsonFormat.compact.fromBytes bytes).bind ofJson

theorem compactSerde_roundTrips {Value : Type} {toJson : Value → Json}
    {ofJson : Json → Except String Value} (reads : ∀ value, ofJson (toJson value) = .ok value) :
    (compactSerde toJson ofJson).RoundTrips where
  encodes _ := rfl
  decodes value := by
    have encoding : (compactSerde toJson ofJson).encoding value =
        JsonFormat.compact.toBytes (toJson value) := List.append_nil _
    have decoded := JsonFormat.compact_faithful (toJson value)
    have read : (compactSerde toJson ofJson).fromSlice
        (JsonFormat.compact.toBytes (toJson value)) = ofJson (toJson value) := by
      change (JsonFormat.compact.fromBytes _).bind ofJson = _
      rw [decoded]
      rfl
    rw [encoding, read, reads]

/-- Puts over frames of a bounded size. -/
def putObjectCodec (maxFrameBytes : Nat) :
    ServiceFrameCodec ProfileSyncPutObjectRequest ProfileSyncPutObjectResponse where
  json :=
    { requests := compactSerde (·.toJson) ProfileSyncPutObjectRequest.ofJson
      responses := compactSerde (·.toJson) ProfileSyncPutObjectResponse.ofJson }
  maxFrameBytes

theorem putObjectCodec_roundTrips (maxFrameBytes : Nat) :
    (putObjectCodec maxFrameBytes).json.RoundTrips where
  requests := compactSerde_roundTrips ProfileSyncPutObjectRequest.ofJson_toJson
  responses := compactSerde_roundTrips ProfileSyncPutObjectResponse.ofJson_toJson

/-- An object takes at least one byte of JSON for each of its own. -/
theorem length_le_encoding_putObject (maxFrameBytes : Nat)
    (request : ProfileSyncPutObjectRequest) :
    request.bytes.length ≤
      ((putObjectCodec maxFrameBytes).json.requests.encoding request).length := by
  have encoding : (putObjectCodec maxFrameBytes).json.requests.encoding request =
      JsonFormat.compact.toBytes request.toJson := List.append_nil _
  calc request.bytes.length
      = ((request.bytes.map UInt8.toNat).map fun byte : Nat => Json.integer byte).length := by
        rw [List.length_map, List.length_map]
    _ ≤ (Json.write (bytesToJson (request.bytes.map UInt8.toNat))).length :=
        Json.length_le_write_array _
    _ ≤ (Json.write (.object [("profile", .string request.profile),
          ("bytes", bytesToJson (request.bytes.map UInt8.toNat))])).length :=
        Json.length_le_write_object (List.mem_cons_of_mem _ List.mem_cons_self)
    _ ≤ (Json.write (.object [("PutEncryptedObject", .object
          [("profile", .string request.profile),
            ("bytes", bytesToJson (request.bytes.map UInt8.toNat))])])).length :=
        Json.length_le_write_object List.mem_cons_self
    _ ≤ (Json.write request.toJson).length := Json.length_le_write_object List.mem_cons_self
    _ ≤ (JsonFormat.compact.toBytes request.toJson).length :=
        JsonFormat.length_write_le_compact request.toJson
    _ = _ := by rw [encoding]

/-- An inner client that answers every put with one id. -/
def answerPut (objectId : String) :
    ServiceHandler ProfileSyncPutObjectRequest ProfileSyncPutObjectResponse Unit :=
  fun _ state => .ok ⟨objectId⟩ state

def shortPut : ProfileSyncPutObjectRequest := ⟨"personal", [1, 2, 3]⟩

theorem shortPut_answered :
    serviceFrameDispatch (putObjectCodec 200) (answerPut "object-a") shortPut () =
        .ok ⟨"object-a"⟩ () ∧
      callsOf (putObjectCodec 200) (answerPut "object-a") shortPut () = [shortPut] := by
  obtain ⟨dispatches, -⟩ := serviceFrames_transparent (putObjectCodec_roundTrips 200)
  obtain ⟨answers, -, once⟩ := dispatches (answerPut "object-a") shortPut ()
  have carriesRequest : (putObjectCodec 200).CarriesRequest shortPut := by
    constructor <;> decide +kernel
  have carriesResponse : (putObjectCodec 200).CarriesResponse ⟨"object-a"⟩ := by
    constructor <;> decide +kernel
  exact ⟨(answers _ _).mpr ⟨carriesRequest, carriesResponse, rfl⟩, once carriesRequest⟩

/-- A codec whose limit is the length of one request. -/
def putObjectCodecFor (request : ProfileSyncPutObjectRequest) :
    ServiceFrameCodec ProfileSyncPutObjectRequest ProfileSyncPutObjectResponse :=
  putObjectCodec ((putObjectCodec 0).json.requests.encoding request).length

theorem length_encoding_response_le :
    (JsonFormat.compact.toBytes (ProfileSyncPutObjectResponse.toJson ⟨"object-a"⟩)).length ≤
      100 := by
  decide +kernel

variable {request : ProfileSyncPutObjectRequest}

theorem response_fits_of_long (long : 2 ^ 32 ≤ request.bytes.length) :
    ((putObjectCodecFor request).json.responses.encoding ⟨"object-a"⟩).length ≤
      (putObjectCodecFor request).maxFrameBytes := by
  have atLeast := length_le_encoding_putObject 0 request
  have isEncoding : (putObjectCodecFor request).json.responses.encoding ⟨"object-a"⟩ =
      JsonFormat.compact.toBytes (ProfileSyncPutObjectResponse.toJson ⟨"object-a"⟩) :=
    List.append_nil _
  have hundred : 100 ≤ 2 ^ 32 := by decide
  rw [isEncoding]
  exact length_encoding_response_le.trans ((hundred.trans long).trans atLeast)

/-- The prefix cannot hold the length of a long put. -/
theorem serviceFrameDispatch_of_long (long : 2 ^ 32 ≤ request.bytes.length) :
    ∃ error, serviceFrameDispatch (putObjectCodecFor request) (answerPut "object-a") request
      () = .error error () := by
  have atLeast := length_le_encoding_putObject 0 request
  have notCarried : ¬ (putObjectCodecFor request).CarriesRequest request :=
    fun carries => not_lt.mpr (long.trans atLeast) carries.2
  exact serviceFrameDispatch_of_not_carries (putObjectCodec_roundTrips _) notCarried

def longPut : ProfileSyncPutObjectRequest := ⟨"personal", List.replicate (2 ^ 32) 0⟩

theorem le_length_longPut : 2 ^ 32 ≤ longPut.bytes.length :=
  Nat.le_of_eq List.length_replicate.symm

theorem request_fits (request : ProfileSyncPutObjectRequest) :
    ((putObjectCodecFor request).json.requests.encoding request).length ≤
      (putObjectCodecFor request).maxFrameBytes :=
  Nat.le_refl _

/-- Both encodings fit the limit, but the prefix cannot hold the length of the request. -/
theorem longPut_not_answered :
    (putObjectCodecFor longPut).json.RoundTrips ∧
      ((putObjectCodecFor longPut).json.requests.encoding longPut).length ≤
        (putObjectCodecFor longPut).maxFrameBytes ∧
      ((putObjectCodecFor longPut).json.responses.encoding ⟨"object-a"⟩).length ≤
        (putObjectCodecFor longPut).maxFrameBytes ∧
      answerPut "object-a" longPut () = .ok ⟨"object-a"⟩ () ∧
      ∃ error, serviceFrameDispatch (putObjectCodecFor longPut) (answerPut "object-a") longPut
        () = .error error () := by
  refine ⟨?_, ?_, ?_, ?_, ?_⟩
  · exact putObjectCodec_roundTrips _
  · exact request_fits longPut
  · exact response_fits_of_long le_length_longPut
  · exact (rfl : answerPut "object-a" longPut () = _)
  · exact serviceFrameDispatch_of_long le_length_longPut

end PutObject

end Slate.Broadwebd
