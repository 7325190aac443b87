import CursorProxy.SseEvents

/-! Chunks of a chat-completions stream become blocks of an Anthropic message. The reader of JSON
texts and the decoder of bytes are parameters. -/
namespace CursorProxy.KimiReducer
open XmlElements SseEvents

structure KimiUsage where
 promptTokens : Option ℕ
 completionTokens : Option ℕ
 totalTokens : Option ℕ
 cachedTokens : Option ℕ
 reasoningTokens : Option ℕ

inductive StopReason where
 | endTurn
 | toolUse
 | maxTokens
deriving DecidableEq

inductive ReducerEvent where
 | thinkingStart (index:ℕ)
 | thinkingDelta (index:ℕ) (text:String)
 | thinkingStop (index:ℕ)
 | textStart (index:ℕ)
 | textDelta (index:ℕ) (text:String)
 | textStop (index:ℕ)
 | toolStart (index:ℕ) (id name:String)
 | toolDelta (index:ℕ) (partialJson:String)
 | toolStop (index:ℕ)
 | finish (stopReason:StopReason) (usage:Option KimiUsage)

structure StreamToolCallFunction where
 name : Option String
 arguments : Option String

structure StreamToolCall where
 index : ℕ
 id : Option String
 function : Option StreamToolCallFunction

structure StreamDelta where
 content : Option String
 reasoningContent : Option String
 toolCalls : Option (List StreamToolCall)

structure StreamChoice where
 delta : Option StreamDelta
 finishReason : Option String

structure StreamUsage where
 promptTokens : Option ℕ
 completionTokens : Option ℕ
 totalTokens : Option ℕ
 cachedTokens : Option ℕ
 /-- The member of `prompt_tokens_details`. -/
 promptCachedTokens : Option (Option ℕ)
 /-- The member of `completion_tokens_details`. -/
 completionReasoningTokens : Option (Option ℕ)

structure StreamChunk where
 choices : Option (List StreamChoice)
 usage : Option StreamUsage
 /-- The message of an error. -/
 error : Option (Option String)

structure KimiEnv where
 /-- `String::from_utf8_lossy`. -/
 fromUtf8Lossy : List UInt8 → Text
 /-- `serde_json::from_str`. -/
 fromStr : Text → Option StreamChunk

def kimiUsageFromStream (u:StreamUsage) : KimiUsage where
 promptTokens := u.promptTokens
 completionTokens := u.completionTokens
 totalTokens := u.totalTokens
 cachedTokens := (u.promptCachedTokens.bind fun details=>details).or u.cachedTokens
 reasoningTokens := u.completionReasoningTokens.bind fun details=>details

structure ToolSlot where
 blockIndex : ℕ
 id : String
 name : String

structure ReducerState where
 out : List ReducerEvent
 nextBlockIndex : ℕ
 thinkingIndex : Option ℕ
 textIndex : Option ℕ
 toolSlots : List ToolSlot
 sawToolCalls : Bool
 finishReason : Option String
 finalUsage : Option KimiUsage

namespace ReducerState

def new : ReducerState := ⟨[],0,none,none,[],false,none,none⟩

def closeThinking (s:ReducerState) : ReducerState :=
 match s.thinkingIndex with
 | some index=>{ s with thinkingIndex := none,out := s.out++[.thinkingStop index] }
 | none=>s

def closeText (s:ReducerState) : ReducerState :=
 match s.textIndex with
 | some index=>{ s with textIndex := none,out := s.out++[.textStop index] }
 | none=>s

def readReasoning (s:ReducerState) (reasoning:String) : ReducerState :=
 match s.thinkingIndex with
 | some index=>{ s with out := s.out++[.thinkingDelta index reasoning] }
 | none=>{ s with
  thinkingIndex := some s.nextBlockIndex
  nextBlockIndex := s.nextBlockIndex+1
  out := s.out++[.thinkingStart s.nextBlockIndex,.thinkingDelta s.nextBlockIndex reasoning] }

def readContent (s:ReducerState) (content:String) : ReducerState :=
 let s:=s.closeThinking
 match s.textIndex with
 | some index=>{ s with out := s.out++[.textDelta index content] }
 | none=>{ s with
  textIndex := some s.nextBlockIndex
  nextBlockIndex := s.nextBlockIndex+1
  out := s.out++[.textStart s.nextBlockIndex,.textDelta s.nextBlockIndex content] }

end ReducerState

namespace StreamToolCall

def idText (tc:StreamToolCall) : String := tc.id.getD ""

def nameText (tc:StreamToolCall) : String := (tc.function.bind StreamToolCallFunction.name).getD ""

def argumentsText (tc:StreamToolCall) : String :=
 (tc.function.bind StreamToolCallFunction.arguments).getD ""

end StreamToolCall

namespace ReducerState

def pushArguments (s:ReducerState) (blockIndex:ℕ) (tc:StreamToolCall) : ReducerState :=
 if tc.argumentsText.isEmpty then s
 else { s with out := s.out++[.toolDelta blockIndex tc.argumentsText] }

/-- The slot is looked up by the index that comes from upstream. -/
def readToolCall (s:ReducerState) (tc:StreamToolCall) : ReducerState :=
 match s.toolSlots.find? fun slot=>slot.blockIndex=tc.index with
 | some slot=>s.pushArguments slot.blockIndex tc
 | none=>
  if tc.idText.isEmpty||tc.nameText.isEmpty then s
  else
   let opened : ReducerState:={ s with
    sawToolCalls := true
    nextBlockIndex := s.nextBlockIndex+1
    toolSlots := s.toolSlots++[⟨s.nextBlockIndex,tc.idText,tc.nameText⟩]
    out := s.out++[.toolStart s.nextBlockIndex tc.idText tc.nameText] }
   opened.pushArguments s.nextBlockIndex tc

def readDelta (s:ReducerState) (delta:StreamDelta) : ReducerState :=
 let s:=match delta.reasoningContent with
  | some reasoning=>if reasoning.isEmpty then s else s.readReasoning reasoning
  | none=>s
 let s:=match delta.content with
  | some content=>if content.isEmpty then s else s.readContent content
  | none=>s
 match delta.toolCalls with
 | some toolCalls=>
  if toolCalls.isEmpty then s else toolCalls.foldl readToolCall s.closeThinking.closeText
 | none=>s

def readFinish (s:ReducerState) (chunk:StreamChunk) (choice:StreamChoice) : ReducerState :=
 match choice.finishReason with
 | some reason=>{ s with
  finishReason := some reason
  finalUsage := match chunk.usage with
   | some usage=>some (kimiUsageFromStream usage)
   | none=>s.finalUsage }
 | none=>s

def readChunk (s:ReducerState) (chunk:StreamChunk) : ReducerState :=
 if chunk.usage.isSome&&(chunk.choices.getD []).isEmpty then
  { s with finalUsage := chunk.usage.map kimiUsageFromStream }
 else match (chunk.choices.getD []).head? with
  | none=>s
  | some choice=>match choice.delta with
   | none=>s.readFinish chunk choice
   | some delta=>(s.readDelta delta).readFinish chunk choice

def finishStream (s:ReducerState) : List ReducerEvent :=
 let closed:=s.closeThinking.closeText
 closed.out++(closed.toolSlots.map fun slot=>.toolStop slot.blockIndex) ++
  [.finish (if s.finishReason=some "length" then .maxTokens
   else if s.finishReason=some "tool_calls" then .toolUse
   else if s.sawToolCalls then .toolUse else .endTurn) s.finalUsage]

end ReducerState

def chunksOf (env:KimiEnv) (input:List UInt8) : List StreamChunk :=
 (parseSseText (env.fromUtf8Lossy input)).filterMap fun event=>
  let data:=trim event.data
  if data.isEmpty||data = "[DONE]".toList then none else env.fromStr data

/-- An error ends the reading; its message is what is returned. -/
def reduceChunks (s:ReducerState) : List StreamChunk → Except String (List ReducerEvent)
 | []=>.ok s.finishStream
 | chunk::chunks=>
  match chunk.error with
  | some message=>.error (message.getD "Upstream error")
  | none=>reduceChunks (s.readChunk chunk) chunks

def reduceUpstreamBytes (env:KimiEnv) (input:List UInt8) : Except String (List ReducerEvent) :=
 reduceChunks .new (chunksOf env input)

end CursorProxy.KimiReducer
