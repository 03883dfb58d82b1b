import Slate.Broadwebd.Http
import Slate.Foundation.ByteStream

/-!
# Service frames

A client sends a request as a frame over a stream and reads the response from it. A frame is
a JSON text of bounded size behind its length in four bytes. In the stream of a process the
handler is called when the request is flushed, or when something is read first.
-/

namespace Slate.Broadwebd

open Slate.Foundation

/-- The text of an error. -/
def BroadwebdError.text : BroadwebdError → String
  | .io error => error
  | .invalidProfile profile => "invalid profile id: " ++ profile
  | .invalidUrl url => "invalid URL: " ++ url
  | .missingPlugin plugin => "missing broadwebd plugin: " ++ plugin
  | .request error => error
  | .frameTooLarge limit actual =>
      "service frame too large: " ++ toString actual ++ " bytes over " ++ toString limit ++
        " byte limit"
  | .responseTooLarge limit actual =>
      "response too large: " ++ toString actual ++ " bytes over " ++ toString limit ++
        " byte limit"
  | .unsupportedRequest described => "unsupported broadwebd request: " ++ described

/-- An error of a stream as one of the daemon. -/
def io {σ α : Type} (action : EStateM String σ α) : EStateM BroadwebdError σ α :=
  action.adaptExcept .io

section Frames

/-- The JSON encoding of a type: the pieces `serde_json::to_writer` writes, with its error if
it fails behind them, and `serde_json::from_slice`. -/
structure Serde (Value : Type) where
  toWriter : Value → List (List Nat) × Option String
  fromSlice : List Nat → Except String Value

structure BoundedFrameWriter where
  bytes : List Nat
  maxFrameBytes : Nat
  rejectedLen : Option Nat

namespace BoundedFrameWriter

def new (maxFrameBytes : Nat) : BoundedFrameWriter where
  bytes := []
  maxFrameBytes
  rejectedLen := none

def sink : ByteSink BoundedFrameWriter where
  write buffer writer :=
    -- The lengths of two buffers cannot saturate the sum.
    let nextLen := writer.bytes.length + buffer.length
    if nextLen > writer.maxFrameBytes then
      .error "broadwebd service frame exceeds configured byte limit"
        { writer with rejectedLen := some nextLen }
    else .ok () { writer with bytes := writer.bytes ++ buffer }
  flush := pure ()

end BoundedFrameWriter

variable {Value σ : Type}

def writePieces : List (List Nat) → EStateM String BoundedFrameWriter Unit
  | [] => pure ()
  | piece :: pieces => do
      BoundedFrameWriter.sink.writeAll piece
      writePieces pieces

def Serde.writeTo (serde : Serde Value) (value : Value) :
    EStateM String BoundedFrameWriter Unit := do
  writePieces (serde.toWriter value).1
  if let some error := (serde.toWriter value).2 then
    throw error

def encodeJsonFrame (serde : Serde Value) (value : Value) (maxFrameBytes : Nat)
    (label : String) : Except BroadwebdError (List Nat) :=
  match serde.writeTo value (.new maxFrameBytes) with
  | .ok _ writer => .ok writer.bytes
  | .error error writer =>
      match writer.rejectedLen with
      | some actual => .error (.frameTooLarge maxFrameBytes actual)
      | none => .error (.request ("encode " ++ label ++ " service frame: " ++ error))

def decodeJsonFrame (serde : Serde Value) (frame : List Nat) (maxFrameBytes : Nat)
    (label : String) : Except BroadwebdError Value :=
  if frame.length > maxFrameBytes then .error (.frameTooLarge maxFrameBytes frame.length)
  else (serde.fromSlice frame).mapError fun error =>
    .request ("decode " ++ label ++ " service frame: " ++ error)

def writeLenPrefixedFrame (sink : ByteSink σ) (frame : List Nat) :
    EStateM BroadwebdError σ Unit := do
  if 2 ^ 32 ≤ frame.length then
    throw (.request ("service frame is too large for length-prefixed transport: " ++
      toString frame.length ++ " bytes"))
  io (sink.writeAll (toBeBytes frame.length))
  io (sink.writeAll frame)
  io sink.flush

def readLenPrefixedFrame (source : ByteSource σ) (maxFrameBytes : Nat) :
    EStateM BroadwebdError σ (List Nat) := do
  let lenBytes ← io (source.readExact 4)
  let frameLen := fromBeBytes lenBytes
  if frameLen > maxFrameBytes then
    throw (.frameTooLarge maxFrameBytes frameLen)
  io (source.readExact frameLen)

end Frames

/-- The JSON encodings of requests and responses. -/
structure ServiceJson (Request Response : Type) where
  requests : Serde Request
  responses : Serde Response

structure ServiceFrameCodec (Request Response : Type) where
  json : ServiceJson Request Response
  maxFrameBytes : Nat

namespace ServiceFrameCodec

variable {Request Response σ : Type} (codec : ServiceFrameCodec Request Response)

def encodeRequest (request : Request) : Except BroadwebdError (List Nat) :=
  encodeJsonFrame codec.json.requests request codec.maxFrameBytes "request"

def decodeRequest (frame : List Nat) : Except BroadwebdError Request :=
  decodeJsonFrame codec.json.requests frame codec.maxFrameBytes "request"

def encodeResponse (response : Response) : Except BroadwebdError (List Nat) :=
  encodeJsonFrame codec.json.responses response codec.maxFrameBytes "response"

def decodeResponse (frame : List Nat) : Except BroadwebdError Response :=
  decodeJsonFrame codec.json.responses frame codec.maxFrameBytes "response"

def writeRequest (sink : ByteSink σ) (request : Request) : EStateM BroadwebdError σ Unit := do
  let frame ← MonadExcept.ofExcept (codec.encodeRequest request)
  writeLenPrefixedFrame sink frame

def readRequest (source : ByteSource σ) : EStateM BroadwebdError σ Request := do
  let frame ← readLenPrefixedFrame source codec.maxFrameBytes
  MonadExcept.ofExcept (codec.decodeRequest frame)

def writeResponse (sink : ByteSink σ) (response : Response) : EStateM BroadwebdError σ Unit := do
  let frame ← MonadExcept.ofExcept (codec.encodeResponse response)
  writeLenPrefixedFrame sink frame

def readResponse (source : ByteSource σ) : EStateM BroadwebdError σ Response := do
  let frame ← readLenPrefixedFrame source codec.maxFrameBytes
  MonadExcept.ofExcept (codec.decodeResponse frame)

end ServiceFrameCodec

section Dispatch

variable {Request Response σ τ : Type}

/-- `BroadwebdClient::dispatch_service_request`, over the state of whoever answers. -/
abbrev ServiceHandler (Request Response σ : Type) := Request → EStateM BroadwebdError σ Response

structure InProcessServiceFrameStream (σ : Type) where
  requestBytes : List Nat
  responseBytes : List Nat
  responseReady : Bool
  handlerState : σ

namespace InProcessServiceFrameStream

def new (handlerState : σ) : InProcessServiceFrameStream σ where
  requestBytes := []
  responseBytes := []
  responseReady := false
  handlerState

variable (codec : ServiceFrameCodec Request Response) (handler : ServiceHandler Request Response σ)

def prepareResponse : EStateM String (InProcessServiceFrameStream σ) Unit := fun stream =>
  if stream.responseReady then .ok () stream
  else
    match codec.readRequest cursorSource stream.requestBytes with
    | .error error _ => .error error.text stream
    | .ok request _ =>
        match handler request stream.handlerState with
        | .error error handlerState => .error error.text { stream with handlerState }
        | .ok response handlerState =>
            match codec.writeResponse bufferSink response [] with
            | .error error _ => .error error.text { stream with handlerState }
            | .ok _ responseBytes =>
                .ok () { stream with responseBytes, responseReady := true, handlerState }

def source : ByteSource (InProcessServiceFrameStream σ) := fun asked => do
  prepareResponse codec handler
  let stream ← get
  set { stream with responseBytes := stream.responseBytes.drop asked }
  pure (stream.responseBytes.take asked)

def sink : ByteSink (InProcessServiceFrameStream σ) where
  write buffer stream :=
    if stream.responseReady then
      .error "in-process service-frame stream is one request per connection" stream
    else .ok () { stream with requestBytes := stream.requestBytes ++ buffer }
  flush := prepareResponse codec handler

end InProcessServiceFrameStream

def dispatchServiceFrameRequestOverStream (codec : ServiceFrameCodec Request Response)
    (source : ByteSource τ) (sink : ByteSink τ) (request : Request) :
    EStateM BroadwebdError τ Response := do
  codec.writeRequest sink request
  codec.readResponse source

/-- `ServiceFrameBroadwebdClient::dispatch_service_request`: over a new stream to the inner
client. -/
def serviceFrameDispatch (codec : ServiceFrameCodec Request Response)
    (inner : ServiceHandler Request Response σ) : ServiceHandler Request Response σ :=
  fun request state =>
    match dispatchServiceFrameRequestOverStream codec
      (InProcessServiceFrameStream.source codec inner)
      (InProcessServiceFrameStream.sink codec inner) request (.new state) with
    | .ok response stream => .ok response stream.handlerState
    | .error error stream => .error error stream.handlerState

end Dispatch

end Slate.Broadwebd
