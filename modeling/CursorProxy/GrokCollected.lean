import CursorProxy.GrokStream

namespace CursorProxy.GrokCollected
open ChunkedPipes GrokReducer GrokStream JsonValues

def reduceAll (env:GrokEnv) (r:Reducer) : List SseEvent → Except GrokError (List ReducerEvent×Reducer)
 | []=>.ok ([],r)
 | event::events=>match env.readValue event.data with
  | none=>.error (.failure "malformed Grok SSE event")
  | some value=>match r.push env value with
   | .error error=>.error error
   | .ok (out,r)=>match reduceAll env r events with
    | .error error=>.error error
    | .ok (more,r)=>.ok (out++more,r)

def reduceUpstreamBytes (env:StreamEnv) (input:List UInt8) : Except GrokError (List ReducerEvent) :=
 match (pipe env).readAll .new input with
 | .error (_,error)=>.error error
 | .ok (events,decoder)=>match reduceAll env.toGrokEnv .new events with
  | .error error=>.error error
  | .ok (out,r)=>match decoder.finish with
   | .error error=>.error error
   | .ok ()=>
    if r.completed then .ok out
    else .error (.failure "Grok stream ended without completion")

/-- Arguments are kept beside the input of a tool until the tool stops. -/
inductive Collected where
 | thinking (thinking signature:String)
 | text (text:String) (citations:List Citation)
 | compaction (content:String)
 | toolUse (id name:String) (input:JsonValue) (args:Option String)
 | serverToolUse (id name:String) (input:JsonValue)
 | toolResult (type toolUseId:String)

structure Usage where
 inputTokens : ℕ
 outputTokens : ℕ
 webSearchRequests : ℕ
 xSearchRequests : ℕ
 deriving DecidableEq

structure Message where
 id : String
 model : String
 content : List Collected
 stopReason : Option String
 usage : Usage

namespace Collected

/-- The reducer adds to blocks of the same kind only. -/
def pushThinking (more:String) : Collected → Collected
 | .thinking old signature=>.thinking (old++more) signature
 | block=>block

def pushText (more:String) : Collected → Collected
 | .text old citations=>.text (old++more) citations
 | block=>block

def pushCompaction (more:String) : Collected → Collected
 | .compaction old=>.compaction (old++more)
 | block=>block

def pushArgs (more:String) : Collected → Collected
 | .toolUse id name input args=>.toolUse id name input (some (args.getD "" ++ more))
 | block=>block

def pushCitation (citation:Citation) : Collected → Collected
 | .text old citations=>.text old (citations++[citation])
 | block=>block

end Collected

def updateLast {α:Type} (index:ℕ) (f:α → α) : List (ℕ×α) → List (ℕ×α)
 | []=>[]
 | block::blocks=>
  if blocks.any fun other=>other.1=index then block::updateLast index f blocks
  else if block.1=index then (block.1,f block.2)::blocks
  else block::blocks

structure AccumulateState where
 blocks : List (ℕ×Collected)
 stop : String
 input : ℕ
 output : ℕ
 webSearchRequests : ℕ
 xSearchRequests : ℕ

namespace AccumulateState

def new : AccumulateState := ⟨[],"end_turn",0,0,0,0⟩

def push (s:AccumulateState) (index:ℕ) (block:Collected) : AccumulateState :=
 { s with blocks := s.blocks++[(index,block)] }

def update (s:AccumulateState) (index:ℕ) (f:Collected → Collected) : AccumulateState :=
 { s with blocks := updateLast index f s.blocks }

/-- Arguments that cannot be read are an error. -/
def stopTool (env:GrokEnv) (s:AccumulateState) (index:ℕ) : Except GrokError AccumulateState :=
 match s.blocks.reverse.find? fun block=>block.1=index with
 | some (_,.toolUse id name _ args)=>match env.readValue (args.getD "\x7b\x7d") with
  | some input=>.ok (s.update index fun _=>.toolUse id name input none)
  | none=>.error (.failure "invalid tool arguments")
 | _=>.ok s

def read (env:GrokEnv) (s:AccumulateState) : ReducerEvent → Except GrokError AccumulateState
 | .thinkingStart index=>.ok (s.push index (.thinking "" ""))
 | .thinkingDelta index text=>.ok (s.update index (Collected.pushThinking text))
 | .textStart index=>.ok (s.push index (.text "" []))
 | .textDelta index text=>.ok (s.update index (Collected.pushText text))
 | .compactionStart index=>.ok (s.push index (.compaction ""))
 | .compactionDelta index text=>.ok (s.update index (Collected.pushCompaction text))
 | .toolStart index id name=>.ok (s.push index (.toolUse id name (.object []) none))
 | .toolDelta index text=>.ok (s.update index (Collected.pushArgs text))
 | .toolStop index=>s.stopTool env index
 | .hostedSearch index resultIndex id name query=>
  .ok ((s.push index (.serverToolUse id name (searchInput query))).push resultIndex
   (.toolResult (name ++ "_tool_result") id))
 | .citation index annotation=>.ok (s.update index (Collected.pushCitation (citationOf annotation)))
 | .finish stopReason inputTokens outputTokens webSearchRequests xSearchRequests=>.ok { s with
  stop := stopReason
  input := inputTokens
  output := outputTokens
  webSearchRequests := webSearchRequests
  xSearchRequests := xSearchRequests }
 | _=>.ok s

def message (s:AccumulateState) (messageId model:String) : Message where
 id := messageId
 model := model
 content := s.blocks.map Prod.snd
 stopReason := some s.stop
 usage := ⟨s.input,s.output,s.webSearchRequests+s.xSearchRequests,s.xSearchRequests⟩

end AccumulateState

def accumulateResponse (env:StreamEnv) (upstream:List UInt8) (messageId model:String) : Except GrokError Message :=
 match reduceUpstreamBytes env upstream with
 | .error error=>.error error
 | .ok events=>match events.foldlM (AccumulateState.read env.toGrokEnv) .new with
  | .error error=>.error error
  | .ok s=>.ok (s.message messageId model)

inductive ClientBlock where
 | thinking (thinking signature:String)
 | text (text:String) (citations:List Citation)
 | compaction (content:String)
 | toolUse (id name partialJson:String)
 | serverToolUse (id name partialJson:String)
 | toolResult (type toolUseId:String)

/-- A delta of another kind than its block adds nothing. -/
def ClientBlock.push : ContentDelta → ClientBlock → ClientBlock
 | .thinkingDelta more, .thinking old signature=>.thinking (old++more) signature
 | .textDelta more, .text old citations=>.text (old++more) citations
 | .compactionDelta more, .compaction old=>.compaction (old++more)
 | .inputJsonDelta more, .toolUse id name old=>.toolUse id name (old++more)
 | .inputJsonDelta more, .serverToolUse id name old=>.serverToolUse id name (old++more)
 | .citationsDelta citation, .text old citations=>.text old (citations++[citation])
 | _,block=>block

def emptyBlock : ContentBlock → ClientBlock
 | .thinking=>.thinking "" ""
 | .text=>.text "" []
 | .compaction=>.compaction ""
 | .toolUse id name=>.toolUse id name ""
 | .serverToolUse id name=>.serverToolUse id name ""
 | .toolResult type toolUseId=>.toolResult type toolUseId

structure ClientMessage where
 id : String
 model : String
 blocks : List (ℕ×ClientBlock)
 stopReason : Option String
 usage : Usage

namespace ClientMessage

def nothing : ClientMessage := ⟨"","",[],none,⟨0,0,0,0⟩⟩

/-- The usage of the last event overrides that of the first in the fields that it has. -/
def read (c:ClientMessage) : StreamEvent → ClientMessage
 | .messageStart messageId model=>⟨messageId,model,[],none,⟨0,0,0,0⟩⟩
 | .contentBlockStart index block=>{ c with blocks := c.blocks++[(index,emptyBlock block)] }
 | .contentBlockDelta index delta=>
  { c with blocks := c.blocks.map fun block=>
     if block.1=index then (block.1,block.2.push delta) else block }
 | .contentBlockStop _=>c
 | .messageDelta stopReason outputTokens webSearchRequests xSearchRequests=>
  { c with
    stopReason := some stopReason
    usage := ⟨c.usage.inputTokens,outputTokens,webSearchRequests,xSearchRequests⟩ }
 | .messageStop=>c

end ClientMessage

def clientInput (env:GrokEnv) (partialJson:String) : JsonValue :=
 if partialJson.isEmpty then .object [] else (env.readValue partialJson).getD .null

def clientContent (env:GrokEnv) : ClientBlock → Collected
 | .thinking thinking signature=>.thinking thinking signature
 | .text text citations=>.text text citations
 | .compaction content=>.compaction content
 | .toolUse id name partialJson=>.toolUse id name (clientInput env partialJson) none
 | .serverToolUse id name partialJson=>.serverToolUse id name (clientInput env partialJson)
 | .toolResult type toolUseId=>.toolResult type toolUseId

def clientMessage (env:GrokEnv) (stream:List StreamEvent) : Message :=
 let c:=stream.foldl ClientMessage.read .nothing
 { id := c.id
   model := c.model
   content := c.blocks.map fun block=>clientContent env block.2
   stopReason := c.stopReason
   usage := c.usage }

end CursorProxy.GrokCollected
