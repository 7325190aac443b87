import CursorProxy.ConnectFraming
import CursorProxy.Traces
import CursorProxy.XmlElements

/-! A response stream whose frames drive a handshake: the run is ready, the model is invoked, the
invocation ends, the request body is finished. How a payload is unpacked and what a response of
the model means is a parameter. Notes of what happened stand beside the state. -/
namespace CursorProxy.RunInference
open ConnectFrames JsonValues XmlElements

variable {τ ε:Type*}

structure CursorError where
 status : ℕ
 message : String
 detail : Option String
deriving DecidableEq

def gateway (message:String) (detail:Option String) : CursorError := ⟨502,message,detail⟩

/-- `CursorStreamEvent`: an event of the model, or the end of the turn. -/
inductive StreamEvent (ε:Type*) where
 | model (event:ε)
 | finished
deriving DecidableEq

abbrev Item (ε:Type*) := Except CursorError (StreamEvent ε)

inductive RunInferencePhase where
 | awaitRunReady
 | awaitInvocation
 | finishing
 | invocationEnded
deriving DecidableEq

def runInferencePhaseReplaySafe (phase:RunInferencePhase) : Bool := phase != .awaitInvocation

/-- What lies outside of the handshake: gzip, JSON, the reading of error bodies and of the model's
responses with the tools they gather, and whether the request body takes a frame. -/
structure InferenceEnv (τ ε:Type*) where
 decodeGzip : List UInt8 → Except String (List UInt8)
 fromSlice : List UInt8 → Except String JsonValue
 parseConnectError : List UInt8 → Option CursorError
 jsonError : JsonValue → Option CursorError
 eventsFromJson : JsonValue → τ → List ε×τ
 flushToolBuffers : τ → List ε×τ
 invocationError : JsonValue → CursorError
 noTools : τ
 invokeFrame : List UInt8
 takesInvoke : Except String Unit
 takesFinish : Except String Unit

inductive FinishAck where
 | waiting
 /-- The receiver was polled to its end. -/
 | completed
deriving DecidableEq

inductive Polled (ε:Type*) where
 | item (item:Item ε)
 | none
 | pending
 /-- A completed receiver is polled again. -/
 | fault

inductive Note (ε:Type*) where
 | runReady (modelId:Text)
 | invokeModel (frame:List UInt8)
 | response (invocationId:String) (value:JsonValue)
 | invocationEnd (invocationId:String) (failed:Bool)
 | finishRun
 | consumed
 | polled (answer:Polled ε)

structure SandRunInferenceStream (τ ε:Type*) where
 decoder : ConnectFrameDecoder
 pending : List (Item ε)
 ended : Bool
 terminalEmitted : Bool
 phase : RunInferencePhase
 invocationId : String
 invokeFrame : Option (List UInt8)
 requestOpen : Bool
 finishAck : Option FinishAck
 tools : τ
 notes : List (Note ε)

def flagGzip : UInt8 := 0x01
def flagEnd : UInt8 := 0x02
def flagControl : UInt8 := 0x80
def maxSandFramePayload : ℕ := 64*1024*1024

def hasFlag (frame:ConnectFrame) (flag:UInt8) : Bool := frame.flags &&& flag != 0

def framePayload (env:InferenceEnv τ ε) (frame:ConnectFrame) : Except CursorError (List UInt8) :=
 if hasFlag frame flagGzip then
  match env.decodeGzip frame.payload with
  | .ok payload=>.ok payload
  | .error error=>.error (gateway "Sand inference gzip frame decode failed" (some error))
 else .ok frame.payload

def carries (value:JsonValue) (key:String) : Bool :=
 (value.get key).any fun member=>match member with
  | .null=>false
  | _=>true

def serverVariants : List String :=
 ["heartbeat","runReady","invocationResponse","invocationEnd"]

def variantCount (value:JsonValue) : ℕ := (serverVariants.filter (carries value)).length

def resolvedModelId (ready:JsonValue) : Option Text :=
 ((((ready.get "resolvedModel").bind (JsonValue.get "modelId")).bind JsonValue.asStr).map
  fun id=>trim id.toList).filter fun id=>!id.isEmpty

namespace SandRunInferenceStream

def new (env:InferenceEnv τ ε) (invocationId:String) : SandRunInferenceStream τ ε where
 decoder := .new
 pending := []
 ended := false
 terminalEmitted := false
 phase := .awaitRunReady
 invocationId := invocationId
 invokeFrame := some env.invokeFrame
 requestOpen := true
 finishAck := none
 tools := env.noTools
 notes := []

def replaySafe (s:SandRunInferenceStream τ ε) : Bool := runInferencePhaseReplaySafe s.phase

def note (s:SandRunInferenceStream τ ε) (note:Note ε) : SandRunInferenceStream τ ε :=
 { s with notes := s.notes++[note] }

def queueTerminalError (s:SandRunInferenceStream τ ε) (error:CursorError) : SandRunInferenceStream τ ε :=
 if s.terminalEmitted then s
 else { s with
  terminalEmitted := true,ended := true,pending := s.pending++[.error error] }

def queueEvents (s:SandRunInferenceStream τ ε) (produced:List ε×τ) : SandRunInferenceStream τ ε :=
 { s with pending := s.pending++produced.1.map fun event=>.ok (.model event)
          tools := produced.2 }

def emitEndOnce (env:InferenceEnv τ ε) (s:SandRunInferenceStream τ ε) : SandRunInferenceStream τ ε :=
 if s.terminalEmitted then s
 else
  let flushed:=s.queueEvents (env.flushToolBuffers s.tools)
  { flushed with
    terminalEmitted := true,ended := true,pending := flushed.pending++[.ok .finished] }

/-- The frame is taken even if the request body does not accept it. -/
def sendInvokeModel (env:InferenceEnv τ ε) (s:SandRunInferenceStream τ ε) :
 SandRunInferenceStream τ ε×Except CursorError Unit :=
 match s.invokeFrame with
 | none=>(s,.error (gateway "RunInference invokeModel frame was already consumed" none))
 | some frame=>
  let taken:={ s with invokeFrame := none }
  if !s.requestOpen then
   (taken,.error (gateway "RunInference request stream closed before runReady" none))
  else match env.takesInvoke with
  | .ok ()=>(taken.note (.invokeModel frame),.ok ())
  | .error error=>(taken,.error
   (gateway "RunInference could not send invokeModel after runReady" (some error)))

def beginFinishRequestBody (env:InferenceEnv τ ε) (s:SandRunInferenceStream τ ε) :
 SandRunInferenceStream τ ε×Except CursorError Unit :=
 if !s.requestOpen then
  (s,.error (gateway "RunInference request stream closed before finishRun" none))
 else match env.takesFinish with
 | .ok ()=>({ s with finishAck := some .waiting,phase := .finishing }.note .finishRun,.ok ())
 | .error error=>
  (s,.error (gateway "RunInference could not queue finishRun" (some error)))

def queueRunReady (env:InferenceEnv τ ε) (s:SandRunInferenceStream τ ε) (ready:JsonValue) :
 SandRunInferenceStream τ ε :=
 if s.phase ≠ .awaitRunReady then
  s.queueTerminalError (gateway "RunInference received runReady out of order" none)
 else match resolvedModelId ready with
 | none=>
  s.queueTerminalError (gateway "RunInference runReady omitted resolvedModel.modelId" none)
 | some modelId=>match (s.note (.runReady modelId)).sendInvokeModel env with
  | (sent,.ok ())=>{ sent with phase := .awaitInvocation }
  | (sent,.error error)=>sent.queueTerminalError error

/-- Whether the message names the invocation of this stream. -/
def own (s:SandRunInferenceStream τ ε) (message:JsonValue) : Bool :=
 (message.get "invocationId").bind JsonValue.asStr==some s.invocationId

def queueInferenceResponse (env:InferenceEnv τ ε) (s:SandRunInferenceStream τ ε)
 (value:JsonValue) : SandRunInferenceStream τ ε :=
 match env.jsonError value with
 | some error=>s.queueTerminalError error
 | none=>s.queueEvents (env.eventsFromJson ((value.get "result").getD value) s.tools)

def queueInvocationResponse (env:InferenceEnv τ ε) (s:SandRunInferenceStream τ ε)
 (reply:JsonValue) : SandRunInferenceStream τ ε :=
 if s.phase ≠ .awaitInvocation then
  s.queueTerminalError (gateway "RunInference received invocationResponse before invokeModel" none)
 else if !s.own reply then s
 else match reply.get "response" with
 | none=>
  s.queueTerminalError (gateway "RunInference invocationResponse omitted response" none)
 | some response=>
  (s.note (.response s.invocationId response)).queueInferenceResponse env response

def queueInvocationEnd (env:InferenceEnv τ ε) (s:SandRunInferenceStream τ ε)
 (message:JsonValue) : SandRunInferenceStream τ ε :=
 if s.phase ≠ .awaitInvocation then
  s.queueTerminalError (gateway "RunInference received invocationEnd out of order" none)
 else if !s.own message then s
 else if carries message "error" then
  let error:=env.invocationError ((message.get "error").getD .null)
  ({ s with phase := .invocationEnded }.note
   (.invocationEnd s.invocationId true)).queueTerminalError error
 else match (s.note (.invocationEnd s.invocationId false)).beginFinishRequestBody env with
 | (begun,.ok ())=>begun
 | (begun,.error error)=>begun.queueTerminalError error

def queueServerMessage (env:InferenceEnv τ ε) (s:SandRunInferenceStream τ ε)
 (value:JsonValue) : SandRunInferenceStream τ ε :=
 if value.asObject.isNone then
  s.queueTerminalError (gateway "RunInference server message is not a JSON object" none)
 else if variantCount value≠1 then
  s.queueTerminalError (gateway ("RunInference server message has " ++
   toString (variantCount value) ++ " variants") none)
 else if carries value "heartbeat" then s
 else match value.get "runReady", value.get "invocationResponse", value.get "invocationEnd" with
 | some ready,_,_=>s.queueRunReady env ready
 | none,some reply,_=>s.queueInvocationResponse env reply
 | none,none,some message=>s.queueInvocationEnd env message
 | none,none,none=>s

def queueEndFrame (env:InferenceEnv τ ε) (s:SandRunInferenceStream τ ε)
 (frame:ConnectFrame) : SandRunInferenceStream τ ε :=
 let error:=if frame.payload.isEmpty then none else match framePayload env frame with
  | .ok payload=>env.parseConnectError payload
  | .error _=>none
 match error with
 | some error=>s.queueTerminalError error
 | none=>
  if s.phase ≠ .invocationEnded then
   s.queueTerminalError (gateway "RunInference transport ended before invocationEnd" none)
  else s

def queueFrame (env:InferenceEnv τ ε) (s:SandRunInferenceStream τ ε) (frame:ConnectFrame) :
 SandRunInferenceStream τ ε :=
 if s.ended||s.terminalEmitted then s
 else if hasFlag frame flagControl then s
 else if hasFlag frame flagEnd then s.queueEndFrame env frame
 else match framePayload env frame with
 | .error error=>s.queueTerminalError error
 | .ok payload=>
  if payload.isEmpty then s
  else match env.fromSlice payload with
  | .ok value=>s.queueServerMessage env value
  | .error error=>s.queueTerminalError
   (gateway "RunInference response frame is not valid JSON" (some error))

def finishAtEof (s:SandRunInferenceStream τ ε) : SandRunInferenceStream τ ε :=
 if s.ended then s
 else if s.decoder.buffered≠0 then
  s.queueTerminalError (gateway "RunInference ended with an incomplete Connect frame"
   (some (toString s.decoder.buffered ++ " trailing bytes")))
 else s.queueTerminalError (gateway "RunInference connection closed before invocationEnd" none)

end SandRunInferenceStream

inductive AckAnswer where
 | pending
 | consumed
 /-- The request body was dropped before it took the frame. -/
 | closed
deriving DecidableEq

inductive BodyAnswer where
 | pending
 | chunk (bytes:List UInt8)
 | failed (error:CursorError)
 | eof

/-- What the acknowledgement and the response body would answer in one turn of the loop. -/
structure Answer where
 ack : AckAnswer
 body : BodyAnswer

namespace SandRunInferenceStream

def pollFinishRequestBody (env:InferenceEnv τ ε) (s:SandRunInferenceStream τ ε)
 (ack:AckAnswer) : SandRunInferenceStream τ ε×Option (Polled ε) :=
 match s.finishAck with
 | none=>(s.queueTerminalError
  (gateway "RunInference finishRun acknowledgement is missing" none),none)
 | some .completed=>(s,some .fault)
 | some .waiting=>match ack with
  | .pending=>(s,some .pending)
  | .consumed=>
   (emitEndOnce env ({ s with
    finishAck := none,requestOpen := false,phase := .invocationEnded }.note .consumed),none)
  | .closed=>({ s with finishAck := some .completed }.queueTerminalError
   (gateway "RunInference request body closed before finishRun was consumed" none),none)

def pollBody (env:InferenceEnv τ ε) (s:SandRunInferenceStream τ ε) (body:BodyAnswer) :
 SandRunInferenceStream τ ε×Option (Polled ε) :=
 match body with
 | .pending=>(s,some .pending)
 | .chunk bytes=>match s.decoder.pushWithLimit bytes maxSandFramePayload with
  | (decoder,.ok frames)=>(frames.foldl (queueFrame env) { s with decoder := decoder },none)
  | (decoder,.error error)=>({ s with decoder := decoder }.queueTerminalError
   (gateway "RunInference Connect frame decode failed" (some error.display)),none)
 | .failed error=>(s.queueTerminalError error,none)
 | .eof=>(s.finishAtEof,none)

/-- One turn of the loop of `poll_next`; a turn that returns ends the poll. -/
def turn (env:InferenceEnv τ ε) (s:SandRunInferenceStream τ ε) (answer:Answer) :
 SandRunInferenceStream τ ε×Option (Polled ε) :=
 match s.pending with
 | item::pending=>({ s with pending := pending },some (.item item))
 | []=>
  if s.phase=.finishing then s.pollFinishRequestBody env answer.ack
  else if s.ended then (s,some .none)
  else s.pollBody env answer.body

/-- A turn with a note of what the poll returned. -/
def step (env:InferenceEnv τ ε) (s:SandRunInferenceStream τ ε) (answer:Answer) : SandRunInferenceStream τ ε :=
 match s.turn env answer with
 | (next,some polled)=>next.note (.polled polled)
 | (next,none)=>next

end SandRunInferenceStream
end CursorProxy.RunInference
