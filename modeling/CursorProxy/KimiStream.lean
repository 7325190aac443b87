import CursorProxy.KimiReducer

/-! The events of the reducer are rendered twice: as the events of an Anthropic stream and as one
message. -/
namespace CursorProxy.KimiStream
open JsonValues KimiReducer

/-- `make_thinking_signature`, and `serde_json::from_str` for values. -/
structure RenderEnv where
 makeThinkingSignature : String → ℕ → String
 readValue : String → Option JsonValue

structure AnthropicUsage where
 inputTokens : ℕ
 outputTokens : ℕ
 cacheCreationInputTokens : ℕ
 cacheReadInputTokens : ℕ
 deriving DecidableEq

def AnthropicUsage.default : AnthropicUsage := ⟨0,0,0,0⟩

def mapUsageToAnthropic (usage:Option KimiUsage) : AnthropicUsage :=
 match usage with
 | none=>.default
 | some usage=>{
  inputTokens := usage.promptTokens.getD 0-usage.cachedTokens.getD 0
  outputTokens := usage.completionTokens.getD 0
  cacheCreationInputTokens := 0
  cacheReadInputTokens := usage.cachedTokens.getD 0 }

def stopReasonText : StopReason → String
 | .endTurn => "end_turn"
 | .toolUse => "tool_use"
 | .maxTokens => "max_tokens"

/-- A tool starts with the input `\x7b\x7d`, the others with an empty text. -/
inductive ContentBlock where
 | thinking
 | text
 | toolUse (id name:String)

inductive ContentDelta where
 | thinkingDelta (thinking:String)
 | signatureDelta (signature:String)
 | textDelta (text:String)
 | inputJsonDelta (partialJson:String)

/-- The usage of `messageStart` is zero. -/
inductive StreamEvent where
 | messageStart (messageId model:String)
 | contentBlockStart (index:ℕ) (block:ContentBlock)
 | contentBlockDelta (index:ℕ) (delta:ContentDelta)
 | contentBlockStop (index:ℕ)
 | messageDelta (stopReason:String) (usage:AnthropicUsage)
 | messageStop

structure StreamState where
 out : List StreamEvent
 messageStarted : Bool

namespace StreamState

def ensureStarted (s:StreamState) (messageId model:String) : StreamState :=
 if s.messageStarted then s
 else ⟨s.out++[.messageStart messageId model],true⟩

def emit (s:StreamState) (events:List StreamEvent) : StreamState :=
 { s with out := s.out++events }

/-- A stop does not look whether the message has started. -/
def render (renv:RenderEnv) (messageId model:String) (s:StreamState) : ReducerEvent → StreamState
 | .thinkingStart index=>
  (s.ensureStarted messageId model).emit [.contentBlockStart index .thinking]
 | .thinkingDelta index text=>
  (s.ensureStarted messageId model).emit [.contentBlockDelta index (.thinkingDelta text)]
 | .thinkingStop index=>s.emit
  [.contentBlockDelta index (.signatureDelta (renv.makeThinkingSignature messageId index)),
   .contentBlockStop index]
 | .textStart index=>(s.ensureStarted messageId model).emit [.contentBlockStart index .text]
 | .textDelta index text=>
  (s.ensureStarted messageId model).emit [.contentBlockDelta index (.textDelta text)]
 | .textStop index=>s.emit [.contentBlockStop index]
 | .toolStart index id name=>
  (s.ensureStarted messageId model).emit [.contentBlockStart index (.toolUse id name)]
 | .toolDelta index partialJson=>(s.ensureStarted messageId model).emit
  [.contentBlockDelta index (.inputJsonDelta partialJson)]
 | .toolStop index=>s.emit [.contentBlockStop index]
 | .finish stopReason usage=>(s.ensureStarted messageId model).emit
  [.messageDelta (stopReasonText stopReason) (mapUsageToAnthropic usage),.messageStop]

end StreamState

def renderAll (renv:RenderEnv) (messageId model:String) (events:List ReducerEvent) : List StreamEvent :=
 (events.foldl (StreamState.render renv messageId model) ⟨[],false⟩).out

def translateStreamBytes (env:KimiEnv) (renv:RenderEnv) (input:List UInt8)
 (messageId model:String) : Except String (List StreamEvent) :=
 match reduceUpstreamBytes env input with
 | .error message=>.error ("upstream stream error: " ++ message ++ " (Failed)")
 | .ok events=>.ok (renderAll renv messageId model events)

inductive Accumulated where
 | thinking (text:String)
 | text (text:String)
 | tool (id name args:String)

structure AccumulatedBlock where
 index : ℕ
 kind : Accumulated

inductive MessageBlock where
 | thinking (thinking signature:String)
 | text (text:String)
 | toolUse (id name:String) (input:JsonValue)

structure Message where
 id : String
 model : String
 content : List MessageBlock
 stopReason : Option String
 usage : AnthropicUsage

namespace Accumulated

def pushThinking (more:String) : Accumulated → Accumulated
 | .thinking old=>.thinking (old++more)
 | block=>block

def pushText (more:String) : Accumulated → Accumulated
 | .text old=>.text (old++more)
 | block=>block

def pushArgs (more:String) : Accumulated → Accumulated
 | .tool id name old=>.tool id name (old++more)
 | block=>block

end Accumulated

def updateLast (index:ℕ) (f:Accumulated → Accumulated) : List AccumulatedBlock → List AccumulatedBlock
 | []=>[]
 | block::blocks=>
  if blocks.any fun other=>other.index=index then block::updateLast index f blocks
  else if block.index=index then ⟨block.index,f block.kind⟩::blocks
  else block::blocks

structure AccumulateState where
 blocks : List AccumulatedBlock
 stopReason : Option StopReason
 usage : Option AnthropicUsage

def AccumulateState.read (s:AccumulateState) : ReducerEvent → AccumulateState
 | .thinkingStart index=>{ s with blocks := s.blocks++[⟨index,.thinking ""⟩] }
 | .thinkingDelta index text=>
  { s with blocks := updateLast index (Accumulated.pushThinking text) s.blocks }
 | .textStart index=>{ s with blocks := s.blocks++[⟨index,.text ""⟩] }
 | .textDelta index text=>
  { s with blocks := updateLast index (Accumulated.pushText text) s.blocks }
 | .toolStart index id name=>{ s with blocks := s.blocks++[⟨index,.tool id name ""⟩] }
 | .toolDelta index partialJson=>
  { s with blocks := updateLast index (Accumulated.pushArgs partialJson) s.blocks }
 | .finish stopReason usage=>
  { s with stopReason := some stopReason,usage := some (mapUsageToAnthropic usage) }
 | _=>s

/-- Empty texts are left out; arguments that are not JSON become a string. -/
def contentOf (renv:RenderEnv) (messageId:String) (block:AccumulatedBlock) : Option MessageBlock :=
 match block.kind with
 | .thinking text=>
  if text.isEmpty then none
  else some (.thinking text (renv.makeThinkingSignature messageId block.index))
 | .text text=>if text.isEmpty then none else some (.text text)
 | .tool id name args=>some (.toolUse id name ((renv.readValue args).getD (.string args)))

def accumulate (renv:RenderEnv) (messageId model:String) (events:List ReducerEvent) : Message :=
 let s:=events.foldl AccumulateState.read ⟨[],none,none⟩
 { id := messageId
   model := model
   content := s.blocks.filterMap (contentOf renv messageId)
   stopReason := s.stopReason.map stopReasonText
   usage := s.usage.getD .default }

def accumulateResponse (env:KimiEnv) (renv:RenderEnv) (input:List UInt8)
 (messageId model:String) : Except String Message :=
 match reduceUpstreamBytes env input with
 | .error message=>.error ("upstream error: " ++ message ++ " (Failed)")
 | .ok events=>.ok (accumulate renv messageId model events)

end CursorProxy.KimiStream
