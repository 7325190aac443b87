import CursorProxy.ChunkedPipes
import CursorProxy.GrokReducer
import CursorProxy.SseEvents

/-! Bytes from upstream are decoded into frames, reduced, and rendered as an Anthropic stream. -/
namespace CursorProxy.GrokStream
open ChunkedPipes GrokReducer JsonValues XmlElements

def maxSseFrameBytes : ℕ := 1024*1024

/-- `std::str::from_utf8`, and `serde_json::to_string`. -/
structure StreamEnv extends GrokEnv where
 fromUtf8 : List UInt8 → Option String
 writeValue : JsonValue → String

structure SseEvent where
 event : Option String
 data : String
 deriving DecidableEq

def linesOf (frame:Text) : List Text :=
 let lines:=frame.splitOn '\n'
 if lines.getLast?=some [] then lines.dropLast else lines

def splitField (line:Text) : Text×Text :=
 match line.span fun char=>char != ':' with
 | (field,':' :: ' ' :: value)=>(field,value)
 | (field,':' :: value)=>(field,value)
 | (field,_)=>(field,[])

structure FrameState where
 event : Option Text
 data : List Text
 deriving DecidableEq

def FrameState.readLine (s:FrameState) (line:Text) : FrameState :=
 if line.head?=some ':' then s
 else
  let (field,value):=splitField line
  if field = "event".toList then { s with event := some value }
  else if field = "data".toList then { s with data := s.data++[value] }
  else s

def parseFrame (env:StreamEnv) (frame:List UInt8) : Except GrokError SseEvent :=
 match env.fromUtf8 frame with
 | none=>.error (.failure "Grok SSE frame contains invalid UTF-8")
 | some frame=>
  let s:=(linesOf frame.toList).foldl FrameState.readLine ⟨none,[]⟩
  if s.data.isEmpty then .error (.failure "Grok SSE frame lacks data")
  else .ok ⟨s.event.map String.ofList,String.ofList (List.intercalate ['\n'] s.data)⟩

structure SseDecoder where
 frame : List UInt8
 lineStart : ℕ
 skipLf : Bool

namespace SseDecoder

def new : SseDecoder := ⟨[],0,false⟩

def pushByte (d:SseDecoder) (byte:UInt8) : Except GrokError SseDecoder :=
 if maxSseFrameBytes ≤ d.frame.length then
  .error (.failure "Grok SSE frame exceeds the size limit")
 else .ok { d with frame := d.frame++[byte] }

def endLine (env:StreamEnv) (d:SseDecoder) : Except GrokError (List SseEvent×SseDecoder) :=
 if d.frame.length=d.lineStart then
  if d.frame.isEmpty then .ok ([],{ d with frame := [],lineStart := 0 })
  else match parseFrame env d.frame with
   | .error error=>.error error
   | .ok event=>.ok ([event],{ d with frame := [],lineStart := 0 })
 else match d.pushByte 10 with
  | .error error=>.error error
  | .ok d=>.ok ([],{ d with lineStart := d.frame.length })

def read (env:StreamEnv) (d:SseDecoder) (byte:UInt8) : Except GrokError (List SseEvent×SseDecoder) :=
 if d.skipLf&&byte==10 then .ok ([],{ d with skipLf := false })
 else
  let d:={ d with skipLf := false }
  if byte=10 then d.endLine env
  else if byte=13 then match d.endLine env with
   | .error error=>.error error
   | .ok (events,d)=>.ok (events,{ d with skipLf := true })
  else match d.pushByte byte with
   | .error error=>.error error
   | .ok d=>.ok ([],d)

def finish (d:SseDecoder) : Except GrokError Unit :=
 if d.frame.isEmpty then .ok ()
 else .error (.failure "Grok SSE stream ended with an incomplete frame")

end SseDecoder

structure Citation where
 url : String
 title : String
 citedText : String
 deriving DecidableEq

def citationOf ( annotation : JsonValue) : Citation where
 url := (stringField "url" annotation).getD ""
 title := (stringField "title" annotation).getD ""
 citedText := (stringField "text" annotation).getD ""

/-- A tool starts with the input `\x7b\x7d`, the others with empty texts. -/
inductive ContentBlock where
 | thinking
 | text
 | compaction
 | toolUse (id name:String)
 | serverToolUse (id name:String)
 | toolResult (type toolUseId:String)

inductive ContentDelta where
 | thinkingDelta (thinking:String)
 | textDelta (text:String)
 | compactionDelta (content:String)
 | inputJsonDelta (partialJson:String)
 | citationsDelta (citation:Citation)

inductive StreamEvent where
 | messageStart (messageId model:String)
 | contentBlockStart (index:ℕ) (block:ContentBlock)
 | contentBlockDelta (index:ℕ) (delta:ContentDelta)
 | contentBlockStop (index:ℕ)
 | messageDelta (stopReason:String) (outputTokens webSearchRequests xSearchRequests:ℕ)
 | messageStop

def numberOf (value:ℕ) : JsonValue := .number (toString value)

namespace ContentBlock

def json : ContentBlock → JsonValue
 | .thinking=>
  .object [("signature",.string ""),("thinking",.string ""),("type",.string "thinking")]
 | .text=>.object [("text",.string ""),("type",.string "text")]
 | .compaction=>.object [("content",.string ""),("type",.string "compaction")]
 | .toolUse id name=>.object [("id",.string id),("input",.object []),
  ("name",.string name),("type",.string "tool_use")]
 | .serverToolUse id name=>.object [("id",.string id),("input",.object []),
  ("name",.string name),("type",.string "server_tool_use")]
 | .toolResult type toolUseId=>.object [("content",.array []),
  ("tool_use_id",.string toolUseId),("type",.string type)]

end ContentBlock

def Citation.json (citation:Citation) : JsonValue :=
 .object [("cited_text",.string citation.citedText),("title",.string citation.title),
  ("type",.string "web_search_result_location"),("url",.string citation.url)]

namespace ContentDelta

def json : ContentDelta → JsonValue
 | .thinkingDelta thinking=>
  .object [("thinking",.string thinking),("type",.string "thinking_delta")]
 | .textDelta text=>.object [("text",.string text),("type",.string "text_delta")]
 | .compactionDelta content=>
  .object [("content",.string content),("type",.string "compaction_delta")]
 | .inputJsonDelta partialJson=>
  .object [("partial_json",.string partialJson),("type",.string "input_json_delta")]
 | .citationsDelta citation=>
  .object [("citation",citation.json),("type",.string "citations_delta")]

end ContentDelta

namespace StreamEvent

def name : StreamEvent → String
 | .messageStart _ _ => "message_start"
 | .contentBlockStart _ _ => "content_block_start"
 | .contentBlockDelta _ _ => "content_block_delta"
 | .contentBlockStop _ => "content_block_stop"
 | .messageDelta _ _ _ _ => "message_delta"
 | .messageStop => "message_stop"

def json : StreamEvent → JsonValue
 | .messageStart messageId model=>.object [
  ("message",.object [("content",.array []),("id",.string messageId),
   ("model",.string model),("role",.string "assistant"),("stop_reason",.null),
   ("stop_sequence",.null),("type",.string "message"),
   ("usage",.object [("input_tokens",numberOf 0),("output_tokens",numberOf 0)])]),
  ("type",.string "message_start")]
 | .contentBlockStart index block=>.object [("content_block",block.json),
  ("index",numberOf index),("type",.string "content_block_start")]
 | .contentBlockDelta index delta=>.object [("delta",delta.json),("index",numberOf index),
  ("type",.string "content_block_delta")]
 | .contentBlockStop index=>.object [("index",numberOf index),
  ("type",.string "content_block_stop")]
 | .messageDelta stopReason outputTokens webSearchRequests xSearchRequests=>.object [
  ("delta",.object [("stop_reason",.string stopReason),("stop_sequence",.null)]),
  ("type",.string "message_delta"),
  ("usage",.object [("output_tokens",numberOf outputTokens),
   ("server_tool_use",.object [("web_search_requests",numberOf webSearchRequests),
    ("x_search_requests",numberOf xSearchRequests)])])]
 | .messageStop=>.object [("type",.string "message_stop")]

end StreamEvent

def encodeSseEvent (name data:String) : List UInt8 :=
 SseEvents.bytesOf ("event: ".toList++name.toList++['\n'] ++
  (data.toList.splitOn '\n').flatMap (fun line=>"data: ".toList++line++['\n'])++['\n'])

def encode (env:StreamEnv) (event:StreamEvent) : List UInt8 :=
 encodeSseEvent event.name (env.writeValue event.json)

def searchInput (query:String) : JsonValue := .object [("query",.string query)]

def renderEvent (env:StreamEnv) : ReducerEvent → List StreamEvent
 | .thinkingStart index=>[.contentBlockStart index .thinking]
 | .thinkingDelta index text=>[.contentBlockDelta index (.thinkingDelta text)]
 | .thinkingStop index=>[.contentBlockStop index]
 | .textStart index=>[.contentBlockStart index .text]
 | .textDelta index text=>[.contentBlockDelta index (.textDelta text)]
 | .textStop index=>[.contentBlockStop index]
 | .compactionStart index=>[.contentBlockStart index .compaction]
 | .compactionDelta index text=>[.contentBlockDelta index (.compactionDelta text)]
 | .compactionStop index=>[.contentBlockStop index]
 | .toolStart index id name=>[.contentBlockStart index (.toolUse id name)]
 | .toolDelta index text=>[.contentBlockDelta index (.inputJsonDelta text)]
 | .toolStop index=>[.contentBlockStop index]
 | .hostedSearch index resultIndex id name query=>[
  .contentBlockStart index (.serverToolUse id name),
  .contentBlockDelta index (.inputJsonDelta (env.writeValue (searchInput query))),
  .contentBlockStop index,
  .contentBlockStart resultIndex (.toolResult (name ++ "_tool_result") id),
  .contentBlockStop resultIndex]
 | .citation index annotation=>
  [.contentBlockDelta index (.citationsDelta (citationOf annotation))]
 | .finish stopReason _ outputTokens webSearchRequests xSearchRequests=>[
  .messageDelta stopReason outputTokens (webSearchRequests+xSearchRequests) xSearchRequests,
  .messageStop]

def startsMessage : ReducerEvent → Bool
 | .thinkingStart _=>true
 | .textStart _=>true
 | .compactionStart _=>true
 | .toolStart _ _ _=>true
 | .hostedSearch _ _ _ _ _=>true
 | .finish _ _ _ _ _=>true
 | _=>false

def isFinish : ReducerEvent → Bool
 | .finish _ _ _ _ _=>true
 | _=>false

structure StreamTranslator where
 messageId : String
 model : String
 started : Bool
 finished : Bool

namespace StreamTranslator

def new (messageId model:String) : StreamTranslator := ⟨messageId,model,false,false⟩

def renderOne (env:StreamEnv) (t:StreamTranslator) (event:ReducerEvent) : List StreamEvent×StreamTranslator :=
 let begins:=!t.started&&startsMessage event
 ((if begins then [.messageStart t.messageId t.model] else [])++renderEvent env event,
  { t with started := t.started||begins,finished := t.finished||isFinish event })

def renderAll (env:StreamEnv) (t:StreamTranslator) : List ReducerEvent → List StreamEvent×StreamTranslator
 | []=>([],t)
 | event::events=>
  let (out,t):=t.renderOne env event
  let (more,t):=t.renderAll env events
  (out++more,t)

def render (env:StreamEnv) (t:StreamTranslator) (events:List ReducerEvent) :
 Except GrokError (List StreamEvent×StreamTranslator) :=
 if t.finished&&!events.isEmpty then .error (.failure "event after terminal completion")
 else .ok (t.renderAll env events)

end StreamTranslator

def handle (env:StreamEnv) (s:Reducer×StreamTranslator) (event:SseEvent) :
 Except GrokError (List StreamEvent×Reducer×StreamTranslator) :=
 match env.readValue event.data with
 | none=>.error (.failure "malformed Grok SSE event")
 | some value=>match s.1.push env.toGrokEnv value with
  | .error error=>.error error
  | .ok (events,reducer)=>match s.2.render env events with
   | .error error=>.error error
   | .ok (out,renderer)=>.ok (out,reducer,renderer)

def pipe (env:StreamEnv) : Pipe UInt8 SseDecoder SseEvent (Reducer×StreamTranslator) StreamEvent GrokError :=
 ⟨SseDecoder.read env,handle env⟩

abbrev LiveStreamTranslator := PipeState SseDecoder (Reducer×StreamTranslator)

def newTranslator (messageId model:String) : LiveStreamTranslator :=
 ⟨0,.new,.new,.new messageId model⟩

def finishTranslator (s:LiveStreamTranslator) : Except GrokError Unit :=
 match s.decoder.finish with
 | .error error=>.error error
 | .ok ()=>
  if s.handler.1.completed then .ok ()
  else .error (.failure "Grok stream ended without completion")

def translateStream (env:StreamEnv) (upstream:List UInt8) (messageId model:String) :
 Except GrokError (List StreamEvent) :=
 match (pipe env).push (newTranslator messageId model) upstream with
 | .error (_,error)=>.error error
 | .ok (out,s)=>match finishTranslator s with
  | .error error=>.error error
  | .ok ()=>.ok out

def translateStreamBytes (env:StreamEnv) (upstream:List UInt8) (messageId model:String) :
 Except GrokError (List UInt8) :=
 (translateStream env upstream messageId model).map fun out=>out.flatMap (encode env)

end CursorProxy.GrokStream
