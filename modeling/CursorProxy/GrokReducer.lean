import CursorProxy.XmlElements

/-! Events of a Responses stream become blocks of an Anthropic message. The reader of JSON texts
is a parameter. -/
namespace CursorProxy.GrokReducer
open JsonValues XmlElements

def maxToolArgumentBytes : ℕ := 1024*1024
def maxIncompleteToolCalls : ℕ := 128

/-- What may be trimmed off a word before it is looked at. -/
def isWordEdge (char:Char) : Bool := !char.isAlphanum&&char != '-' && char != '_'

def splitDots (token:Text) : List Text := token.splitOn '.'

def looksLikeSecret (token:Text) : Bool :=
 let trimmed:=(token.dropWhile isWordEdge).rdropWhile isWordEdge
 let length:=(trimmed.map Char.utf8Size).sum
 ("sk-".toList.isPrefixOf trimmed&&8<length) ||
  ("xai-".toList.isPrefixOf trimmed&&12<length) ||
  match splitDots token with
  | [header,payload,signature]=>
   "eyJ".toList.isPrefixOf header&&!payload.isEmpty&&!signature.isEmpty
  | _=>false

def wordsOf (text:Text) : List Text :=
 (text.splitOnP isWhitespace).filter fun word=>!word.isEmpty

def equalsIgnoreCase (word other:Text) : Bool := word.map Char.toLower=other

/-- `Bearer` takes the secret behind it. -/
def sanitizeWords : List Text → List Text
 | []=>[]
 | [word]=>[if looksLikeSecret word then "[redacted]".toList else word]
 | word::next::words=>
  if equalsIgnoreCase word "bearer".toList&&looksLikeSecret next then
   "Bearer [redacted]".toList::sanitizeWords words
  else (if looksLikeSecret word then "[redacted]".toList else word) ::
   sanitizeWords (next::words)

def sanitizeErrorMessage (raw:String) : String :=
 let out:=List.intercalate [' '] (sanitizeWords (wordsOf (raw.toList.take 512)))
 if out.isEmpty then "Grok upstream rejected the request" else String.ofList out

inductive GrokError where
 | upstream (code message:String)
 | failure (message:String)
 deriving DecidableEq

def filled (text:String) : Bool := !(trim text.toList).isEmpty

def upstreamErrorDetails (value:JsonValue) : GrokError :=
 let error:=(member "error" (value.get "response")).or (value.get "error")
 let code:=((error.bind fun error=>(error.get "code").or (error.get "type")).bind
  JsonValue.asStr).filter filled
 let message:=((member "message" error).bind JsonValue.asStr).filter filled
 .upstream (code.getD "server_error") (sanitizeErrorMessage (message.getD "Upstream error"))

inductive ReducerEvent where
 | thinkingStart (index:ℕ)
 | thinkingDelta (index:ℕ) (text:String)
 | thinkingStop (index:ℕ)
 | textStart (index:ℕ)
 | textDelta (index:ℕ) (text:String)
 | textStop (index:ℕ)
 | compactionStart (index:ℕ)
 | compactionDelta (index:ℕ) (text:String)
 | compactionStop (index:ℕ)
 | toolStart (index:ℕ) (id name:String)
 | toolDelta (index:ℕ) (text:String)
 | toolStop (index:ℕ)
 | hostedSearch (index resultIndex:ℕ) (id name query:String)
 | citation (index:ℕ) ( annotation : JsonValue)
 | finish (stopReason:String) (inputTokens outputTokens webSearchRequests xSearchRequests:ℕ)

inductive ActiveKind where
 | thinking
 | text
 | compaction
 deriving DecidableEq

namespace ActiveKind

def start (kind:ActiveKind) (index:ℕ) : ReducerEvent :=
 match kind with
 | .thinking=>.thinkingStart index
 | .compaction=>.compactionStart index
 | .text=>.textStart index

def delta (kind:ActiveKind) (index:ℕ) (text:String) : ReducerEvent :=
 match kind with
 | .thinking=>.thinkingDelta index text
 | .compaction=>.compactionDelta index text
 | .text=>.textDelta index text

def stop (kind:ActiveKind) (index:ℕ) : ReducerEvent :=
 match kind with
 | .thinking=>.thinkingStop index
 | .compaction=>.compactionStop index
 | .text=>.textStop index

end ActiveKind

structure Reducer where
 nextIndex : ℕ
 active : Option (ActiveKind×ℕ)
 calls : AList fun _ : String=>ℕ×String
 itemCalls : AList fun _ : String=>String
 toolArgs : AList fun _ : String=>String
 /-- Written, and not read. -/
 completedArguments : AList fun _ : String=>Bool
 hostedCalls : AList fun _ : String=>String×String
 webSearchRequests : ℕ
 xSearchRequests : ℕ
 sawTool : Bool
 completed : Bool

/-- `serde_json::from_str`. -/
structure GrokEnv where
 readValue : String → Option JsonValue

abbrev Pushed := Except GrokError (List ReducerEvent×Reducer)

def stringField (key:String) (value:JsonValue) : Option String :=
 (value.get key).bind JsonValue.asStr

def nonempty (text:Option String) : Option String := text.filter fun text=>!text.isEmpty

namespace Reducer

def new : Reducer where
 nextIndex := 0
 active := none
 calls := ∅
 itemCalls := ∅
 toolArgs := ∅
 completedArguments := ∅
 hostedCalls := ∅
 webSearchRequests := 0
 xSearchRequests := 0
 sawTool := false
 completed := false

def closing (r:Reducer) : List ReducerEvent :=
 match r.active with
 | some (kind,index)=>[kind.stop index]
 | none=>[]

def closeActive (r:Reducer) : Reducer := { r with active := none }

def closeKind (r:Reducer) (kind:ActiveKind) : List ReducerEvent×Reducer :=
 if r.active.any fun active=>active.1=kind then (r.closing,r.closeActive) else ([],r)

def delta (r:Reducer) (kind:ActiveKind) (text:String) : List ReducerEvent×Reducer :=
 match r.active with
 | some (active,index)=>
  if active=kind then ([kind.delta index text],r)
  else (r.closing++[kind.start r.nextIndex,kind.delta r.nextIndex text],
   { r with active := some (kind,r.nextIndex),nextIndex := r.nextIndex+1 })
 | none=>([kind.start r.nextIndex,kind.delta r.nextIndex text],
  { r with active := some (kind,r.nextIndex),nextIndex := r.nextIndex+1 })

def pushDelta (r:Reducer) (kind:ActiveKind) (text:Option String) (message:String) : Pushed :=
 match text with
 | some text=>.ok (r.delta kind text)
 | none=>.error (.failure message)

/-- The input of a custom tool is kept; nothing is shown. -/
def customToolDelta (r:Reducer) (value:JsonValue) : Pushed :=
 match stringField "item_id" value with
 | none=>.error (.failure "custom tool delta lacks item id")
 | some id=>match stringField "delta" value with
  | none=>.error (.failure "custom tool delta is invalid")
  | some delta=>match r.hostedCalls.lookup id with
   | none=>.error (.failure "custom tool delta is out of order")
   | some (name,input)=>
    if maxToolArgumentBytes < input.utf8ByteSize+delta.utf8ByteSize then
     .error (.failure "custom tool input exceeds the size limit")
    else .ok ([],{ r with hostedCalls := r.hostedCalls.insert id (name,input++delta) })

def annotationAdded (r:Reducer) (value:JsonValue) : Pushed :=
 match r.active,value.get "annotation" with
 | some (kind,index),some annotation=>
  if kind=.text ∧ stringField "type" annotation=some "url_citation" then
   .ok ([.citation index annotation],r)
  else .ok ([],r)
 | _,_=>.ok ([],r)

/-! ### Items that begin -/

def compactionAdded (r:Reducer) (item:JsonValue) : List ReducerEvent×Reducer :=
 let more:=match nonempty (stringField "content" item) with
  | some content=>[ReducerEvent.compactionDelta r.nextIndex content]
  | none=>[]
 (r.closing ++ .compactionStart r.nextIndex::more,
  { r with active := some (.compaction,r.nextIndex),nextIndex := r.nextIndex+1 })

def customToolAdded (r:Reducer) (item:JsonValue) : Pushed :=
 match nonempty (stringField "id" item) with
 | none=>.error (.failure "custom tool call id is invalid")
 | some id=>
  let name:=(nonempty (stringField "name" item)).getD "x_search"
  let name:=if "x_".toList.isPrefixOf name.toList then "x_search" else name
  .ok ([],{ r with hostedCalls := r.hostedCalls.insert id (name,"") })

def withCall (r:Reducer) (id name:String) (itemId:Option String) : Reducer :=
 { r with
   active := none
   nextIndex := r.nextIndex+1
   calls := r.calls.insert id (r.nextIndex,name)
   itemCalls := match itemId with
    | some itemId=>r.itemCalls.insert itemId id
    | none=>r.itemCalls
   toolArgs := r.toolArgs.insert id ""
   completedArguments := r.completedArguments.insert id false
   sawTool := true }

def functionCallAdded (r:Reducer) (item:JsonValue) : Pushed :=
 match nonempty (stringField "call_id" item) with
 | none=>.error (.failure "function call id is invalid")
 | some id=>match nonempty (stringField "name" item) with
  | none=>.error (.failure "function call name is invalid")
  | some name=>
   if (r.calls.lookup id).isSome then .error (.failure "duplicate function call id")
   else if maxIncompleteToolCalls ≤ r.calls.keys.length then
    .error (.failure "too many incomplete function calls")
   else .ok (r.closing++[.toolStart r.nextIndex id name],r.withCall id name (stringField "id" item))

def itemAdded (r:Reducer) (value:JsonValue) : Pushed :=
 match (value.get "item").filter fun item=>item.asObject.isSome with
 | none=>.error (.failure "output item is invalid")
 | some item=>match stringField "type" item with
  | some "compaction" => .ok (r.compactionAdded item)
  | some "custom_tool_call" => r.customToolAdded item
  | some "function_call" => r.functionCallAdded item
  | _=>.ok ([],r)

/-! ### Arguments -/

def callId (r:Reducer) (value:JsonValue) : Option String :=
 (stringField "call_id" value).or ((stringField "item_id" value).bind fun itemId=>r.itemCalls.lookup itemId)

def argumentsDelta (r:Reducer) (value:JsonValue) : Pushed :=
 match r.callId value with
 | none=>.error (.failure "function delta lacks call id")
 | some id=>match stringField "delta" value with
  | none=>.error (.failure "function delta is invalid")
  | some delta=>match r.calls.lookup id,r.toolArgs.lookup id with
   | some (index,_),some args=>
    if maxToolArgumentBytes<args.utf8ByteSize+delta.utf8ByteSize then
     .error (.failure "function arguments exceed the size limit")
    else .ok ([.toolDelta index delta],{ r with toolArgs := r.toolArgs.insert id (args++delta) })
   | _,_=>.error (.failure "function delta is out of order")

def argumentsDone (r:Reducer) (value:JsonValue) : Pushed :=
 match r.callId value with
 | none=>.error (.failure "function completion lacks call id")
 | some id=>match r.toolArgs.lookup id,r.calls.lookup id with
  | some accumulated,some (index,_)=>
   let done : Reducer :=
    { r with completedArguments := r.completedArguments.insert id true }
   match stringField "arguments" value with
   | some args=>
    if accumulated.isEmpty&&!args.isEmpty then
     .ok ([.toolDelta index args],{ done with toolArgs := r.toolArgs.insert id (accumulated++args) })
    else if args≠accumulated then
     .error (.failure "function completion arguments disagree with deltas")
    else .ok ([],done)
   | none=>.ok ([],done)
  | _,_=>.error (.failure "function completion is out of order")

/-! ### Items that end -/

/-- A search that upstream made itself: a block for it and a block for its result. -/
def hosted (r:Reducer) (id name query:String) : List ReducerEvent×Reducer :=
 (r.closing++[.hostedSearch r.nextIndex (r.nextIndex+1) ("srvtoolu_" ++ id) name query],
  { r with active := none,nextIndex := r.nextIndex+2 })

def webSearchDone (r:Reducer) (item:JsonValue) : Pushed :=
 match nonempty (stringField "id" item) with
 | none=>.error (.failure "completed web search lacks id")
 | some id=>
  let query:=((member "query" (item.get "action")).bind JsonValue.asStr).getD ""
  .ok ({ r with webSearchRequests := r.webSearchRequests+1 }.hosted id "web_search" query)

def customToolDone (env:GrokEnv) (r:Reducer) (item:JsonValue) : Pushed :=
 match nonempty (stringField "id" item) with
 | none=>.error (.failure "completed custom tool lacks id")
 | some id=>
  let kept:=(r.hostedCalls.lookup id).getD ((stringField "name" item).getD "x_search","")
  let r:={ r with hostedCalls := r.hostedCalls.erase id }
  if kept.1 ≠ "x_search" then .ok ([],r)
  else
   let query:=((env.readValue kept.2).bind (stringField "query")).getD ""
   .ok ({ r with xSearchRequests := r.xSearchRequests+1 }.hosted id kept.1 query)

def functionCallDone (env:GrokEnv) (r:Reducer) (item:JsonValue) : Pushed :=
 match stringField "call_id" item with
 | none=>.error (.failure "completed function call lacks call id")
 | some id=>match r.calls.lookup id with
  | none=>.error (.failure "completed function call is unknown")
  | some (index,_)=>
   if (env.readValue ((r.toolArgs.lookup id).getD "")).isSome then
    .ok ([.toolStop index],{ r with
     calls := r.calls.erase id
     toolArgs := r.toolArgs.erase id
     completedArguments := r.completedArguments.erase id })
   else .error (.failure "function arguments are incomplete")

def itemDone (env:GrokEnv) (r:Reducer) (value:JsonValue) : Pushed :=
 match (value.get "item").filter fun item=>item.asObject.isSome with
 | none=>.error (.failure "completed output item is invalid")
 | some item=>match stringField "type" item with
  | some "compaction" => .ok (r.closeKind .compaction)
  | some "web_search_call" => r.webSearchDone item
  | some "custom_tool_call" => r.customToolDone env item
  | some "function_call" => r.functionCallDone env item
  | _=>.ok ([],r)

def finishEvent (r:Reducer) (value:JsonValue) : ReducerEvent :=
 let usage:=((value.get "response").getD value).get "usage"
 let tokens:=fun key=>((member key usage).bind JsonValue.asU64).getD 0
 .finish (if r.sawTool then "tool_use" else "end_turn") (tokens "input_tokens")
  (tokens "output_tokens") r.webSearchRequests r.xSearchRequests

def complete (r:Reducer) (value:JsonValue) : Pushed :=
 if r.calls.keys≠[] then .error (.failure "function call is incomplete")
 else .ok (r.closing++[r.finishEvent value],{ r with active := none,completed := true })

end Reducer

inductive EventType where
 | reasoningDelta
 | compactionDelta
 | compactionDone
 | customToolDelta
 | annotationAdded
 | textDelta
 | itemAdded
 | argumentsDelta
 | argumentsDone
 | textDone
 | reasoningDone
 | itemDone
 | completed
 | failed
 /-- Known and left out, or unknown. -/
 | quiet
 deriving DecidableEq

def eventType : String → EventType
 | "response.reasoning_summary_text.delta" => .reasoningDelta
 | "response.reasoning_text.delta" => .reasoningDelta
 | "response.compaction.delta" => .compactionDelta
 | "response.compaction_text.delta" => .compactionDelta
 | "response.compaction.done" => .compactionDone
 | "response.compaction_text.done" => .compactionDone
 | "response.custom_tool_call_input.delta" => .customToolDelta
 | "response.output_text.annotation.added" => .annotationAdded
 | "response.output_text.delta" => .textDelta
 | "response.output_item.added" => .itemAdded
 | "response.function_call_arguments.delta" => .argumentsDelta
 | "response.function_call_arguments.done" => .argumentsDone
 | "response.output_text.done" => .textDone
 | "response.reasoning_summary_text.done" => .reasoningDone
 | "response.reasoning_text.done" => .reasoningDone
 | "response.output_item.done" => .itemDone
 | "response.completed" => .completed
 | "error" => .failed
 | "response.failed" => .failed
 | _=>.quiet

def Reducer.pushTyped (env:GrokEnv) (r:Reducer) (value:JsonValue) : EventType → Pushed
 | .reasoningDelta=>
  r.pushDelta .thinking (stringField "delta" value) "reasoning delta is invalid"
 | .compactionDelta=>
  r.pushDelta .compaction (((value.get "delta").or (value.get "content")).bind JsonValue.asStr)
   "compaction delta is invalid"
 | .compactionDone=>.ok (r.closeKind .compaction)
 | .customToolDelta=>r.customToolDelta value
 | .annotationAdded=>r.annotationAdded value
 | .textDelta=>r.pushDelta .text (stringField "delta" value) "text delta is invalid"
 | .itemAdded=>r.itemAdded value
 | .argumentsDelta=>r.argumentsDelta value
 | .argumentsDone=>r.argumentsDone value
 | .textDone=>.ok (r.closeKind .text)
 | .reasoningDone=>.ok (r.closeKind .thinking)
 | .itemDone=>r.itemDone env value
 | .completed=>r.complete value
 | .failed=>.error (upstreamErrorDetails value)
 | .quiet=>.ok ([],r)

def Reducer.push (env:GrokEnv) (r:Reducer) (value:JsonValue) : Pushed :=
 if r.completed then .error (.failure "event after terminal completion")
 else match stringField "type" value with
  | none=>.error (.failure "event lacks type")
  | some typ=>r.pushTyped env value (eventType typ)

end CursorProxy.GrokReducer
