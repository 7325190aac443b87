import CursorProxy.SseEvents
import CursorProxy.RetryPolicy

/-! Events of an Anthropic stream become events of a Responses stream. The reader and the writer
of JSON and the decoder of bytes are parameters. -/
namespace CursorProxy.ResponsesStream
open JsonValues XmlElements SseEvents RetryPolicy

structure ResponsesEnv where
 /-- `String::from_utf8_lossy`. -/
 fromUtf8Lossy : List UInt8 → Text
 /-- `serde_json::from_str`. -/
 fromStr : Text → Option JsonValue
 /-- `serde_json::to_string`. -/
 toString : JsonValue → String

inductive Item where
 /-- The content is empty, or one `output_text`. -/
 | message (id:String) (completed:Bool) (content:Option String)
 | functionCall (id callId:String) (name:JsonValue) (arguments:String) (completed:Bool)
 | reasoning (id summary:String)

namespace Item

def id : Item → String
 | message id _ _=>id
 | functionCall id _ _ _ _=>id
 | reasoning id _=>id

def isCompleted : Item → Bool
 | message _ completed _=>completed
 | functionCall _ _ _ _ completed=>completed
 | reasoning _ _=>false

def isFunctionCall : Item → Bool
 | functionCall _ _ _ _ _=>true
 | _=>false

def arguments : Item → String
 | functionCall _ _ _ arguments _=>arguments
 | _ => ""

def complete : Item → Item
 | message id _ content=>message id true content
 | functionCall id callId name arguments _=>functionCall id callId name arguments true
 | reasoning id summary=>reasoning id summary

def withContent (text:String) : Item → Item
 | message id completed _=>message id completed (some text)
 | item=>item

def withArguments (arguments:String) : Item → Item
 | functionCall id callId name _ completed=>functionCall id callId name arguments completed
 | item=>item

end Item

structure UsageObject where
 inputTokens : ℕ
 outputTokens : ℕ
 totalTokens : ℕ
 cachedTokens : ℕ

structure Response where
 id : String
 model : String
 status : String
 output : List Item
 usage : UsageObject

/-- One constructor for each `type`. `done` is the `[DONE]` that has no number. -/
inductive Payload where
 | created (response:Response)
 | inProgress (response:Response)
 | reasoningTextDelta (itemId:String) (outputIndex:ℕ) (delta:String)
 | outputItemAdded (outputIndex:ℕ) (item:Item)
 | contentPartAdded (itemId:String) (outputIndex:ℕ)
 | outputTextDelta (itemId:String) (outputIndex:ℕ) (delta:String)
 | outputTextDone (itemId:String) (outputIndex:ℕ) (text:String)
 | contentPartDone (itemId:String) (outputIndex:ℕ) (text:String)
 | argumentsDelta (itemId:String) (outputIndex:ℕ) (delta:String)
 | argumentsDone (itemId:String) (outputIndex:ℕ) (arguments:String)
 | outputItemDone (outputIndex:ℕ) (item:Item)
 | completed (response:Response)
 /-- With `max_output_tokens` for its reason. -/
 | incomplete (response:Response)
 | failed (response:Response) (code message:String)
 | done

/-- What is written: an event with its `sequence_number`, or `[DONE]`. -/
inductive Output where
 | event (sequenceNumber:ℕ) (payload:Payload)
 | done

structure Translator where
 id : String
 model : String
 started : Bool
 finished : Bool
 failed : Bool
 failedKind : Option String
 failedMessage : Option String
 sawKeepalive : Bool
 sequence : ℕ
 inputTokens : ℕ
 outputTokens : ℕ
 cachedTokens : ℕ
 cacheCreationTokens : ℕ
 toolIndex : ℕ
 nextOutputIndex : ℕ
 textOutputIndex : Option ℕ
 toolOutputIndexes : List ℕ
 textItemId : Option String
 text : String
 reasoningText : String
 compactionText : String
 compactionItemId : Option String
 compactionOutputIndex : Option ℕ
 compactionActiveIndex : Option ℕ
 reasoningOutputIndex : Option ℕ
 toolItemIds : List String
 /-- The last entry of a block comes first. -/
 toolBlockOrdinals : List (ℕ×ℕ)
 outputItemIndexes : List (String×ℕ)
 outputItems : List Item
 stopReason : Option String

/-- The payloads of a method, in the order of its calls of `emit`. -/
abbrev Emission := Translator×List Payload

namespace Translator

def new (id model:String) : Translator where
 id := id
 model := model
 started := false
 finished := false
 failed := false
 failedKind := none
 failedMessage := none
 sawKeepalive := false
 sequence := 0
 inputTokens := 0
 outputTokens := 0
 cachedTokens := 0
 cacheCreationTokens := 0
 toolIndex := 0
 nextOutputIndex := 0
 textOutputIndex := none
 toolOutputIndexes := []
 textItemId := none
 text := ""
 reasoningText := ""
 compactionText := ""
 compactionItemId := none
 compactionOutputIndex := none
 compactionActiveIndex := none
 reasoningOutputIndex := none
 toolItemIds := []
 toolBlockOrdinals := []
 outputItemIndexes := []
 outputItems := []
 stopReason := none

/-- A payload takes the next number when it is emitted. -/
def number : ℕ → List Payload → ℕ×List Output
 | sequence,[]=>(sequence,[])
 | sequence, .done::payloads=>
  ((number sequence payloads).1,.done::(number sequence payloads).2)
 | sequence,payload::payloads=>
  ((number (sequence+1) payloads).1,
   .event sequence payload::(number (sequence+1) payloads).2)

def emit (emission:Emission) : Translator×List Output :=
 ({ emission.1 with sequence := (number emission.1.sequence emission.2).1 },
  (number emission.1.sequence emission.2).2)

def usageObject (s:Translator) : UsageObject where
 inputTokens := s.inputTokens+s.cachedTokens+s.cacheCreationTokens
 outputTokens := s.outputTokens
 totalTokens := s.inputTokens+s.cachedTokens+s.cacheCreationTokens+s.outputTokens
 cachedTokens := s.cachedTokens

def baseResponse (s:Translator) (status:String) (output:List Item) : Response :=
 ⟨s.id,s.model,status,output,s.usageObject⟩

def ingestUsage (s:Translator) (usage:JsonValue) : Translator :=
 { s with
   inputTokens := ((usage.get "input_tokens").bind JsonValue.asU64).getD s.inputTokens
   outputTokens := ((usage.get "output_tokens").bind JsonValue.asU64).getD s.outputTokens
   cachedTokens :=
    ((usage.get "cache_read_input_tokens").bind JsonValue.asU64).getD s.cachedTokens
   cacheCreationTokens :=
    ((usage.get "cache_creation_input_tokens").bind JsonValue.asU64).getD s.cacheCreationTokens }

def hasDeliverableOutput (s:Translator) : Bool :=
 !s.text.isEmpty||!s.outputItems.isEmpty||!s.reasoningText.isEmpty

def toolOutputIndex (s:Translator) (toolIndex:ℕ) : ℕ :=
 s.toolOutputIndexes[toolIndex]?.getD toolIndex

def updateItem (s:Translator) (id:String) (f:Item → Item) : Translator :=
 match s.outputItems.findIdx? fun item=>item.id=id with
 | some index=>{ s with outputItems := s.outputItems.modify index f }
 | none=>s

/-! ### Text -/

def textDelta (s:Translator) (text:Option String) : Emission :=
 match text with
 | none=>(s,[])
 | some text=>
  match s.textItemId with
  | some itemId=>
   ({ s with text := s.text++text },
    [.outputTextDelta itemId (s.textOutputIndex.getD 0) text])
  | none=>
   let itemId := "msg_" ++ s.id
   let outputIndex:=s.nextOutputIndex
   ({ s with
    text := s.text++text
    nextOutputIndex := s.nextOutputIndex+1
    textItemId := some itemId
    textOutputIndex := some outputIndex },
    [.outputItemAdded outputIndex (.message itemId false none),
     .contentPartAdded itemId outputIndex,.outputTextDelta itemId outputIndex text])

def reasoningDelta (s:Translator) (text:String) : Emission :=
 match s.reasoningOutputIndex with
 | some outputIndex=>
  ({ s with reasoningText := s.reasoningText++text },
   [.reasoningTextDelta ("rs_" ++ s.id) outputIndex text])
 | none=>
  ({ s with
   reasoningText := s.reasoningText++text
   nextOutputIndex := s.nextOutputIndex+1
   reasoningOutputIndex := some s.nextOutputIndex },
   [.reasoningTextDelta ("rs_" ++ s.id) s.nextOutputIndex text])

/-! ### Compaction -/

def compactionTextDelta (s:Translator) (text:String) : Emission :=
 if text.isEmpty then (s,[])
 else match s.compactionItemId with
  | none=>(s,[])
  | some itemId=>
   let s:={ s with compactionText := s.compactionText++text }
   (s.updateItem itemId (Item.withContent s.compactionText),
    [.outputTextDelta itemId (s.compactionOutputIndex.getD 0) text])

def closeCompactionItem (s:Translator) : Emission :=
 match s.compactionItemId with
 | none=>(s,[])
 | some itemId=>
  match s.outputItems.find? fun item=>item.id=itemId with
  | none=>(s,[])
  | some item=>
   if item.isCompleted then (s,[])
   else
    let closed:=(item.complete).withContent s.compactionText
    let outputIndex:=s.compactionOutputIndex.getD 0
    (s.updateItem itemId fun _=>closed,
     [.outputTextDone itemId outputIndex s.compactionText,
      .contentPartDone itemId outputIndex s.compactionText,
      .outputItemDone outputIndex closed])

def startCompaction (s:Translator) (index:ℕ) (content:Option String) : Emission :=
 let itemId := "msg_cmp_" ++ s.id ++ "_" ++ toString index
 let outputIndex:=s.nextOutputIndex
 let item:=Item.message itemId false none
 let opened : Translator:={ s with
  nextOutputIndex := s.nextOutputIndex+1
  outputItemIndexes := (itemId,outputIndex)::s.outputItemIndexes
  compactionItemId := some itemId
  compactionOutputIndex := some outputIndex
  compactionActiveIndex := some index
  compactionText := ""
  outputItems := s.outputItems++[item] }
 match content with
 | some content=>
  ((opened.compactionTextDelta content).1,
   [.outputItemAdded outputIndex item,.contentPartAdded itemId outputIndex] ++
    (opened.compactionTextDelta content).2)
 | none=>
  (opened,[.outputItemAdded outputIndex item,.contentPartAdded itemId outputIndex])

/-! ### Tools -/

def initialToolArguments (env:ResponsesEnv) (value:JsonValue) : Option String :=
 let accepted (raw:String) : Option String :=
  let trimmed:=trim raw.toList
  if trimmed.isEmpty||trimmed = "{}".toList||trimmed = "null".toList then none else some raw
 match value with
 | .string text=>accepted text
 | .null=>none
 | other=>accepted (env.toString other)

def startToolUse (env:ResponsesEnv) (s:Translator) (index:Option ℕ) (block:JsonValue) : Emission :=
 let toolOrdinal:=s.toolIndex
 let callId:=(((block.get "id").bind JsonValue.asStr).filter
  fun id=>!(trim id.toList).isEmpty).getD ("call_" ++ s.id ++ "_" ++ toString toolOrdinal)
 let itemId := "fc_" ++ callId
 let outputIndex:=s.nextOutputIndex
 let item:=Item.functionCall itemId callId ((block.get "name").getD (.string "")) "" false
 let initialArguments:=((block.get "input").bind (initialToolArguments env)).getD ""
 let opened : Translator:={ s with
  toolIndex := s.toolIndex+1
  toolBlockOrdinals := match index with
   | some index=>(index,toolOrdinal)::s.toolBlockOrdinals
   | none=>s.toolBlockOrdinals
  toolItemIds := s.toolItemIds++[itemId]
  nextOutputIndex := s.nextOutputIndex+1
  toolOutputIndexes := s.toolOutputIndexes++[outputIndex]
  outputItemIndexes := (itemId,outputIndex)::s.outputItemIndexes
  outputItems := s.outputItems++[item] }
 if initialArguments.isEmpty then (opened,[.outputItemAdded outputIndex item])
 else
  (opened.updateItem itemId (Item.withArguments initialArguments),
   [.outputItemAdded outputIndex item,.argumentsDelta itemId outputIndex initialArguments])

def inputJsonDelta (s:Translator) (blockIndex:Option ℕ) (partialJson:String) : Emission :=
 let index:=(blockIndex.bind fun block=>s.toolBlockOrdinals.lookup block).getD
  (s.toolIndex-1)
 let outputIndex:=s.toolOutputIndex index
 match s.toolItemIds[index]? with
 | some itemId=>
  (s.updateItem itemId fun item=>item.withArguments (item.arguments++partialJson),
   [.argumentsDelta itemId outputIndex partialJson])
 | none=>(s,[.argumentsDelta ("fc_" ++ toString index) outputIndex partialJson])

/-! ### The end of the stream -/

def closeItem (s:Translator) (item:Item) (index:ℕ) : Emission :=
 if item.isCompleted then (s,[])
 else if some item.id=s.compactionItemId then s.closeCompactionItem
 else if item.isFunctionCall then
  let outputIndex:=((s.toolItemIds.findIdx? fun id=>id=item.id).map
   s.toolOutputIndex).getD index
  (s,[.argumentsDone item.id outputIndex item.arguments,
   .outputItemDone outputIndex item.complete])
 else (s,[.outputItemDone (s.compactionOutputIndex.getD index) item.complete])

def closeItems (s:Translator) : List (Item×ℕ) → Emission
 | []=>(s,[])
 | (item,index)::items=>
  ((closeItems (s.closeItem item index).1 items).1,
   (s.closeItem item index).2++(closeItems (s.closeItem item index).1 items).2)

def closeText (s:Translator) : List Payload :=
 match s.textItemId with
 | none=>[]
 | some itemId=>
  let outputIndex:=s.textOutputIndex.getD 0
  [.outputTextDone itemId outputIndex s.text,.contentPartDone itemId outputIndex s.text,
   .outputItemDone outputIndex (.message itemId true (some s.text))]

def closeOpenItems (s:Translator) : Emission :=
 ((s.closeItems s.outputItems.zipIdx).1,s.closeText++(s.closeItems s.outputItems.zipIdx).2)

def itemOutputIndex (s:Translator) (item:Item) (index:ℕ) : ℕ :=
 match s.outputItemIndexes.lookup item.id with
 | some outputIndex=>outputIndex
 | none=>
  if item.isFunctionCall then
   ((s.toolItemIds.findIdx? fun id=>id=item.id).map s.toolOutputIndex).getD index
  else s.compactionOutputIndex.getD index

/-- The items of the response, by their output index and then by their order in the list. -/
def finalOutput (s:Translator) : List Item :=
 let reasoning:=if s.reasoningText.isEmpty then []
  else [(s.reasoningOutputIndex.getD 0,Item.reasoning ("rs_" ++ s.id) s.reasoningText)]
 let message:=match s.textItemId with
  | some itemId=>[(s.textOutputIndex.getD 0,Item.message itemId true (some s.text))]
  | none=>[]
 let items:=s.outputItems.zipIdx.map fun (item,index)=>
  (s.itemOutputIndex item index,item.complete)
 ((reasoning++message++items).insertionSort fun left right=>left.1 ≤ right.1).map Prod.snd

def completed (s:Translator) : Emission :=
 if s.finished||s.failed then (s,[])
 else
  let closed:=({ s with finished := true }).closeOpenItems
  if s.stopReason=some "max_tokens" then
   (closed.1,closed.2 ++ [.incomplete (closed.1.baseResponse "incomplete" closed.1.finalOutput),.done])
  else
   (closed.1,closed.2 ++ [.completed (closed.1.baseResponse "completed" closed.1.finalOutput),.done])

def responsesErrorCode (kind:Option String) (message:String) : String :=
 match kind with
 | some "rate_limit_error" => "rate_limit"
 | some "authentication_error" => "invalid_api_key"
 | some "permission_error" => "invalid_request"
 | some "invalid_request_error" => "invalid_request"
 | some "not_found_error" => "invalid_request"
 | _=>
  let status:=classifyProxyErrorStatus 502 message.toList
  if status=429 then "rate_limit"
  else if status=401 then "invalid_api_key"
  else if 400 ≤ status ∧ status<500 then "invalid_request"
  else "server_error"

def failedEvent (s:Translator) (message:String) : Emission :=
 let s:={ s with failed := true,finished := true }
 (s,[.failed (s.baseResponse "failed" s.finalOutput) (responsesErrorCode s.failedKind message) message,.done])

def failWith (s:Translator) (kind message:String) : Emission :=
 if s.finished||s.failed then (s,[])
 else
  let s:={ s with failedKind := some kind,failedMessage := some message }
  if s.started then s.failedEvent message
  else
   let s:={ s with started := true }
   ((s.failedEvent message).1,
    .created (s.baseResponse "in_progress" [])::(s.failedEvent message).2)

/-! ### Events -/

def messageStart (s:Translator) (value:JsonValue) : Emission :=
 let model:=(member "model" (value.get "message")).bind JsonValue.asStr
 let s:={ s with model := model.getD s.model }
 let s:=match member "usage" (value.get "message") with
  | some usage=>s.ingestUsage usage
  | none=>s
 let s:={ s with started := true }
 (s,[.created (s.baseResponse "in_progress" [])])

def contentBlockDelta (s:Translator) (value:JsonValue) : Emission :=
 let delta:=(value.get "delta").getD .null
 match (delta.get "type").bind JsonValue.asStr with
 | some "thinking_delta" => match (delta.get "thinking").bind JsonValue.asStr with
  | some text=>s.reasoningDelta text
  | none=>(s,[])
 | some "compaction_delta" => match (delta.get "content").bind JsonValue.asStr with
  | some text=>s.compactionTextDelta text
  | none=>(s,[])
 | some "text_delta" => s.textDelta ((delta.get "text").bind JsonValue.asStr)
 | some "input_json_delta" => match (delta.get "partial_json").bind JsonValue.asStr with
  | some partialJson=>s.inputJsonDelta ((value.get "index").bind JsonValue.asU64) partialJson
  | none=>(s,[])
 | _=>(s,[])

def contentBlockStart (env:ResponsesEnv) (s:Translator) (value:JsonValue) : Emission :=
 let block:=(value.get "content_block").getD .null
 let index:=(value.get "index").bind JsonValue.asU64
 match (block.get "type").bind JsonValue.asStr with
 | some "compaction" =>
  s.startCompaction (index.getD 0) ((block.get "content").bind JsonValue.asStr)
 | some "tool_use" => startToolUse env s index block
 | _=>(s,[])

def messageDelta (s:Translator) (value:JsonValue) : Emission :=
 let reason:=((member "stop_reason" (value.get "delta")).bind JsonValue.asStr).filter
  fun reason=>!reason.isEmpty
 let s:={ s with stopReason := reason.or s.stopReason }
 match value.get "usage" with
 | some usage=>(s.ingestUsage usage,[])
 | none=>(s,[])

def contentBlockStop (s:Translator) (value:JsonValue) : Emission :=
 let index:=((value.get "index").bind JsonValue.asU64).getD (2 ^ 64-1)
 if s.compactionActiveIndex=some index then
  ({ s with compactionActiveIndex := none }).closeCompactionItem
 else (s,[])

def upstreamError (s:Translator) (value:JsonValue) : Emission :=
 s.failWith (((member "type" (value.get "error")).bind JsonValue.asStr).getD "api_error")
  (((member "message" (value.get "error")).bind JsonValue.asStr).getD "upstream error")

def ping (s:Translator) : Emission :=
 let s:={ s with sawKeepalive := true }
 if s.started then (s,[.inProgress (s.baseResponse "in_progress" s.outputItems)])
 else
  let s:={ s with started := true }
  (s,[.created (s.baseResponse "in_progress" []),
   .inProgress (s.baseResponse "in_progress" s.outputItems)])

def renderValue (env:ResponsesEnv) (s:Translator) (value:JsonValue) : Emission :=
 match ((value.get "type").bind JsonValue.asStr).getD "" with
 | "message_start" => s.messageStart value
 | "content_block_delta" => s.contentBlockDelta value
 | "content_block_start" => contentBlockStart env s value
 | "message_delta" => s.messageDelta value
 | "content_block_stop" => s.contentBlockStop value
 | "message_stop" => s.completed
 | "error" => s.upstreamError value
 | "ping" => s.ping
 | _=>(s,[])

def render (env:ResponsesEnv) (s:Translator) (event:SseEvent) : Emission :=
 if s.finished||s.failed then (s,[])
 else match env.fromStr event.data with
  | some value=>renderValue env s value
  | none=>(s,[])

def renderAll (env:ResponsesEnv) (s:Translator) : List SseEvent → Translator×List Output
 | []=>(s,[])
 | event::events=>
  let first:=emit (s.render env event)
  ((renderAll env first.1 events).1,first.2++(renderAll env first.1 events).2)

def fail (s:Translator) (message:String) : Translator×List Output :=
 emit (s.failWith "api_error" message)

/-- A stream that ends without a terminal event is completed, or fails when nothing was said. -/
def settle (rendered:Translator×List Output) : Translator×List Output :=
 let s:=rendered.1
 if s.started&&!s.finished&&!s.failed then
  if s.hasDeliverableOutput then
   ((emit s.completed).1,rendered.2++(emit s.completed).2)
  else
   ((s.fail "upstream stream ended without completion").1,
    rendered.2++(s.fail "upstream stream ended without completion").2)
 else rendered

/-! ### Bytes -/

def parseSseEvents (env:ResponsesEnv) (input:List UInt8) : List SseEvent :=
 parseSseText (env.fromUtf8Lossy input)

/-- The bytes up to the last two newlines, and the rest. -/
def splitReady : List UInt8 → Option (List UInt8×List UInt8)
 | []=>none
 | byte::rest=>
  match splitReady rest with
  | some (ready,rest)=>some (byte::ready,rest)
  | none=>match byte,rest with
   | 10,10::rest=>some ([10,10],rest)
   | _,_=>none

end Translator

open Translator

structure AnthropicToResponses where
 buffer : List UInt8
 state : Translator

namespace AnthropicToResponses

def new (id model:String) : AnthropicToResponses := ⟨[],.new id model⟩

def push (env:ResponsesEnv) (s:AnthropicToResponses) (chunk:List UInt8) : AnthropicToResponses×List Output :=
 match splitReady (s.buffer++chunk) with
 | some (ready,rest)=>
  (⟨rest,(renderAll env s.state (parseSseEvents env ready)).1⟩,(renderAll env s.state (parseSseEvents env ready)).2)
 | none=>(⟨s.buffer++chunk,s.state⟩,[])

def fail (s:AnthropicToResponses) (message:String) : AnthropicToResponses×List Output :=
 (⟨s.buffer,(s.state.fail message).1⟩,(s.state.fail message).2)

def finish (env:ResponsesEnv) (s:AnthropicToResponses) : AnthropicToResponses×List Output :=
 (⟨[],(settle (renderAll env s.state (parseSseEvents env s.buffer))).1⟩,
  (settle (renderAll env s.state (parseSseEvents env s.buffer))).2)

end AnthropicToResponses
end CursorProxy.ResponsesStream
