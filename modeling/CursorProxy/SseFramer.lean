import CursorProxy.SandModel
import CursorProxy.XmlElements

/-! The framer turns decoded Cursor events into the events of an Anthropic message. The clock is
read at most once by each call of a function that looks at it; `reads` counts these readings. -/
namespace CursorProxy.SseFramer
open CautiousScan JsonValues SandModel XmlElements

structure SseUsage where
 inputTokens : ℕ
 outputTokens : ℕ
 cacheCreationInputTokens : ℕ
 cacheReadInputTokens : ℕ
 deriving DecidableEq

inductive ContentBlock where
 | thinking
 | text
 | toolUse (id name:String)

inductive ContentDelta where
 | thinkingDelta (thinking:Text)
 | signatureDelta (signature:Text)
 | textDelta (text:Text)
 | inputJsonDelta (partialJson:String)

inductive SseEvent where
 | messageStart (messageId model:String) (usage:SseUsage)
 | contentBlockStart (index:ℤ) (contentBlock:ContentBlock)
 | contentBlockDelta (index:ℤ) (delta:ContentDelta)
 | contentBlockStop (index:ℤ)
 | messageDelta (stopReason:Option String) (usage:SseUsage)
 | messageStop

def usageProgressMinInterval : ℕ := 200
def usageProgressMinOutputDelta : ℕ := 8

def fableThinkingOpen : Text := "<thinking>".toList
def fableThinkingClose : Text := "</thinking>".toList
def fableThinkingLeadingWsMaxBytes : ℕ := 64

inductive LeadingThinkingArtifactState where
 | disabled
 | candidate
 | body
 | passthrough
 deriving DecidableEq

def fableProtocolArtifactCandidate (model:String) : Bool :=
 (find "fable".toList (model.toList.map Char.toLower)).isSome

/-- The readings of the clock, and `serde_json::to_string`. -/
structure SseEnv where
 now : ℕ → ℕ
 toJson : JsonValue → Option String

structure CursorSseState where
 started : Bool := false
 compactionMode : Bool := false
 thinkingOpen : Bool := false
 textOpen : Bool := false
 nextIndex : ℤ := 0
 thinkingIndex : ℤ := -1
 textIndex : ℤ := -1
 usageInputTokens : ℕ := 0
 usageOutputTokens : ℕ := 0
 usageOutputEstimate : ℕ := 0
 usageCacheReadTokens : ℕ := 0
 usageCacheWriteTokens : ℕ := 0
 lastProgressInput : ℕ := 0
 lastProgressOutput : ℕ := 0
 lastProgressCacheRead : ℕ := 0
 lastProgressCacheWrite : ℕ := 0
 lastProgressAt : Option ℕ := none
 seenTextDelta : Bool := false
 leadingThinkingArtifact : LeadingThinkingArtifactState := .disabled
 leadingThinkingBuffer : Text := []
 compactionThinkingFallback : Text := []
 compactionSeenText : Bool := false
 finalized : Bool := false

structure CursorSseFramer where
 output : List SseEvent
 messageId : String
 model : String
 state : CursorSseState
 reads : ℕ

def normalizeCursorUsageForAnthropic (inputTokens outputTokens cacheReadTokens cacheWriteTokens : ℕ) : ℕ×ℕ×ℕ×ℕ :=
 let cacheParts:=saturatingAdd cacheReadTokens cacheWriteTokens
 if 0 < inputTokens ∧ 0<cacheParts ∧ cacheParts ≤ inputTokens then
  (inputTokens-cacheParts,outputTokens,cacheReadTokens,cacheWriteTokens)
 else if 0 < inputTokens ∧ cacheReadTokens=inputTokens ∧ cacheWriteTokens=0 then
  (inputTokens,outputTokens,0,0)
 else (inputTokens,outputTokens,cacheReadTokens,cacheWriteTokens)

def textBytes (text:Text) : ℕ := (text.map Char.utf8Size).sum

def isAsciiWhitespace (char:Char) : Bool :=
 [' ','\t','\n',Char.ofNat 12,'\r'].contains char

namespace CursorSseFramer

def new (messageId model:String) : CursorSseFramer where
 output := []
 messageId := messageId
 model := model
 state := {
  leadingThinkingArtifact :=
   if fableProtocolArtifactCandidate model then .candidate else .disabled }
 reads := 0

def newCompaction (messageId model:String) : CursorSseFramer where
 output := []
 messageId := messageId
 model := model
 state := { compactionMode := true }
 reads := 0

def writeSseEvent (framer:CursorSseFramer) (event:SseEvent) : CursorSseFramer :=
 { framer with output := framer.output++[event] }

/-- What is noted about usage whenever it is written. -/
def noteProgress (env:SseEnv) (framer:CursorSseFramer) (input output cacheRead cacheWrite : ℕ) : CursorSseFramer :=
 { framer with
   state.lastProgressInput := input
   state.lastProgressOutput := output
   state.lastProgressCacheRead := cacheRead
   state.lastProgressCacheWrite := cacheWrite
   state.lastProgressAt := some (env.now framer.reads)
   reads := framer.reads+1 }

def ensureStart (env:SseEnv) (framer:CursorSseFramer) : CursorSseFramer :=
 if framer.state.started||framer.state.finalized then framer
 else
  let input:=max framer.state.usageInputTokens 1
  let cacheWrite:=framer.state.usageCacheWriteTokens
  let cacheRead:=framer.state.usageCacheReadTokens
  let started:={ framer with state.started := true }
  (started.writeSseEvent (.messageStart framer.messageId framer.model
   ⟨input,0,cacheWrite,cacheRead⟩)).noteProgress env input 0 cacheRead cacheWrite

def closeThinking (framer:CursorSseFramer) : CursorSseFramer :=
 if framer.state.thinkingOpen then
  { framer.writeSseEvent (.contentBlockStop framer.state.thinkingIndex) with
    state.thinkingOpen := false }
 else framer

def closeText (framer:CursorSseFramer) : CursorSseFramer :=
 if framer.state.textOpen then
  { framer.writeSseEvent (.contentBlockStop framer.state.textIndex) with
    state.textOpen := false }
 else framer

def openThinking (env:SseEnv) (framer:CursorSseFramer) : CursorSseFramer×Bool :=
 if framer.state.finalized then (framer,false)
 else if framer.state.thinkingOpen then (framer,true)
 else
  let closed:=if framer.state.textOpen then framer.closeText else framer
  let ready:=closed.ensureStart env
  let opened:={ ready with
   state.thinkingOpen := true
   state.thinkingIndex := ready.state.nextIndex
   state.nextIndex := ready.state.nextIndex+1 }
  (opened.writeSseEvent (.contentBlockStart opened.state.thinkingIndex .thinking),true)

def openText (env:SseEnv) (framer:CursorSseFramer) : CursorSseFramer×Bool :=
 if framer.state.finalized then (framer,false)
 else if framer.state.textOpen then (framer,true)
 else
  let closed:=if framer.state.thinkingOpen then framer.closeThinking else framer
  let ready:=closed.ensureStart env
  let opened:={ ready with
   state.textOpen := true
   state.textIndex := ready.state.nextIndex
   state.nextIndex := ready.state.nextIndex+1 }
  (opened.writeSseEvent (.contentBlockStart opened.state.textIndex .text),true)

def noteGeneratedText (framer:CursorSseFramer) (text:Text) : CursorSseFramer :=
 if framer.state.finalized||text.isEmpty then framer
 else
  { framer with
    state.usageOutputEstimate :=
     saturatingAdd framer.state.usageOutputEstimate (textBytes text / 4) }

def resolvedOutputTokens (framer:CursorSseFramer) : ℕ :=
 max framer.state.usageOutputTokens framer.state.usageOutputEstimate

def usageSnapshot (framer:CursorSseFramer) : ℕ×ℕ×ℕ×ℕ :=
 (max framer.state.usageInputTokens 1,framer.resolvedOutputTokens,
  framer.state.usageCacheReadTokens,framer.state.usageCacheWriteTokens)

def maybeEmitUsageProgress (env:SseEnv) (force:Bool) (framer:CursorSseFramer) : CursorSseFramer :=
 if framer.state.finalized||!framer.state.started then framer
 else if framer.state.thinkingOpen||!framer.state.seenTextDelta then framer
 else
  let (input,output,cacheRead,cacheWrite):=framer.usageSnapshot
  let inputChanged:=input≠framer.state.lastProgressInput
  let cacheChanged:=cacheRead≠framer.state.lastProgressCacheRead ∨
   cacheWrite≠framer.state.lastProgressCacheWrite
  let outputDelta:=output-framer.state.lastProgressOutput
  let outputChanged:=0<outputDelta
  if ¬inputChanged ∧ ¬cacheChanged ∧ ¬outputChanged then framer
  else
   let firstOutput:=outputChanged ∧ framer.state.lastProgressOutput=0
   let significant:=inputChanged ∨ cacheChanged ∨
    usageProgressMinOutputDelta ≤ outputDelta ∨ firstOutput
   let elapsed:=env.now framer.reads-framer.state.lastProgressAt.getD 0
   let soon:=framer.state.lastProgressAt.isSome ∧ elapsed<usageProgressMinInterval
   if force=false ∧
    (¬significant ∨ ¬firstOutput ∧ soon ∧ ¬inputChanged ∧ ¬cacheChanged) then
    { framer with reads := framer.reads+1 }
   else
    let looked:={ framer with reads := framer.reads+1 }
    (looked.writeSseEvent (.messageDelta none ⟨input,output,cacheWrite,cacheRead⟩)).noteProgress
     env input output cacheRead cacheWrite

def addOutputTokens (env:SseEnv) (framer:CursorSseFramer) (tokens:ℕ) : CursorSseFramer :=
 if framer.state.finalized||tokens==0 then framer
 else
  ({ framer with
   state.usageOutputTokens :=
    saturatingAdd framer.state.usageOutputTokens tokens }).maybeEmitUsageProgress env false

def recordUsage (env:SseEnv) (framer:CursorSseFramer) (inputTokens outputTokens
 cacheReadTokens cacheWriteTokens : ℕ) : CursorSseFramer :=
 if framer.state.finalized then framer
 else if inputTokens=0 ∧ cacheReadTokens=0 ∧ cacheWriteTokens=0 ∧ 0<outputTokens then
  framer.addOutputTokens env outputTokens
 else
  let (input,output,cacheRead,cacheWrite) :=
   normalizeCursorUsageForAnthropic inputTokens outputTokens cacheReadTokens cacheWriteTokens
  ({ framer with
   state.usageInputTokens := input
   state.usageOutputTokens := output
   state.usageCacheReadTokens := cacheRead
   state.usageCacheWriteTokens := cacheWrite }).maybeEmitUsageProgress env true

def seedEstimatedInputTokens (framer:CursorSseFramer) (tokens:ℕ) : CursorSseFramer :=
 if framer.state.finalized||tokens==0 then framer
 else if framer.state.usageInputTokens=0 ∧ framer.state.usageCacheReadTokens=0 ∧
  framer.state.usageCacheWriteTokens=0 then
  { framer with state.usageInputTokens := tokens }
 else framer

def emitTextDeltaRaw (env:SseEnv) (framer:CursorSseFramer) (text:Text) : CursorSseFramer :=
 if text.isEmpty then framer
 else
  match framer.openText env with
  | (framer,false)=>framer
  | (framer,true)=>
   let noted:=({ framer with state.seenTextDelta := true }).noteGeneratedText text
   (noted.writeSseEvent (.contentBlockDelta noted.state.textIndex
    (.textDelta text))).maybeEmitUsageProgress env false

def emitThinkingDelta (env:SseEnv) (framer:CursorSseFramer) (text:Text) : CursorSseFramer :=
 if framer.state.compactionMode then
  if !framer.state.compactionSeenText&&!framer.state.finalized then
   { framer with
     state.compactionThinkingFallback := framer.state.compactionThinkingFallback++text }
  else framer
 else
  match framer.openThinking env with
  | (framer,false)=>framer
  | (framer,true)=>
   let noted:=framer.noteGeneratedText text
   noted.writeSseEvent (.contentBlockDelta noted.state.thinkingIndex (.thinkingDelta text))

def emitThinkingSignature (env:SseEnv) (framer:CursorSseFramer) (signature:Text) : CursorSseFramer :=
 if framer.state.compactionMode||signature.isEmpty then framer
 else
  match framer.openThinking env with
  | (framer,false)=>framer
  | (framer,true)=>
   framer.writeSseEvent (.contentBlockDelta framer.state.thinkingIndex (.signatureDelta signature))

def completeThinking (framer:CursorSseFramer) : CursorSseFramer :=
 if framer.state.compactionMode then framer else framer.closeThinking

/-! ## The leading artifact

The loop of `drain_leading_thinking_artifact` goes from the candidate to the body and
from there to the text that passes through, never back. -/

def drainPassthrough (env:SseEnv) (framer:CursorSseFramer) : CursorSseFramer :=
 if framer.state.leadingThinkingBuffer.isEmpty then framer
 else ({ framer with state.leadingThinkingBuffer := [] }).emitTextDeltaRaw env
  framer.state.leadingThinkingBuffer

def drainBody (env:SseEnv) (flush:Bool) (framer:CursorSseFramer) : CursorSseFramer :=
 let buffer:=framer.state.leadingThinkingBuffer
 match find fableThinkingClose buffer with
 | some closeAt=>
  let reasoned :=
   if 0<closeAt then framer.emitThinkingDelta env (buffer.take closeAt) else framer
  ({ reasoned with
   state.leadingThinkingBuffer := buffer.drop (closeAt+fableThinkingClose.length)
   state.leadingThinkingArtifact := .passthrough }).drainPassthrough env
 | none=>
  if flush then
   ({ framer with state.leadingThinkingBuffer := [] }).emitThinkingDelta env buffer
  else
   let emitLen:=buffer.length-prefixSuffixLength buffer fableThinkingClose
   if 0<emitLen then
    ({ framer with state.leadingThinkingBuffer := buffer.drop emitLen }).emitThinkingDelta env
     (buffer.take emitLen)
   else framer

def drainCandidate (env:SseEnv) (flush:Bool) (framer:CursorSseFramer) : CursorSseFramer :=
 let buffer:=framer.state.leadingThinkingBuffer
 if buffer.isEmpty then framer
 else
  let whitespaceLen:=(buffer.takeWhile isAsciiWhitespace).length
  let candidate:=buffer.drop whitespaceLen
  if fableThinkingLeadingWsMaxBytes<whitespaceLen then
   ({ framer with state.leadingThinkingArtifact := .passthrough }).drainPassthrough env
  else if fableThinkingOpen.isPrefixOf candidate then
   ({ framer with
    state.leadingThinkingBuffer := buffer.drop (whitespaceLen+fableThinkingOpen.length)
    state.leadingThinkingArtifact := .body }).drainBody env flush
  else if !flush&&candidate.isPrefixOf fableThinkingOpen then framer
  else ({ framer with state.leadingThinkingArtifact := .passthrough }).drainPassthrough env

def drainLeadingThinkingArtifact (env:SseEnv) (flush:Bool) (framer:CursorSseFramer) : CursorSseFramer :=
 match framer.state.leadingThinkingArtifact with
 | .disabled | .passthrough=>framer.drainPassthrough env
 | .candidate=>framer.drainCandidate env flush
 | .body=>framer.drainBody env flush

def emitTextDelta (env:SseEnv) (framer:CursorSseFramer) (text:Text) : CursorSseFramer :=
 if framer.state.compactionMode then
  if text.isEmpty||framer.state.finalized then framer
  else if framer.state.compactionSeenText then framer.emitTextDeltaRaw env text
  else
   ({ framer with
    state.compactionSeenText := true
    state.compactionThinkingFallback := [] }).emitTextDeltaRaw env text
 else if text.isEmpty||framer.state.finalized then framer
 else
  match framer.state.leadingThinkingArtifact with
  | .candidate | .body=>
   ({ framer with
    state.leadingThinkingBuffer :=
     framer.state.leadingThinkingBuffer++text }).drainLeadingThinkingArtifact env false
  | .disabled | .passthrough=>framer.emitTextDeltaRaw env text

def flushDeferredText (env:SseEnv) (framer:CursorSseFramer) : CursorSseFramer :=
 if framer.state.compactionMode then
  if !framer.state.compactionSeenText&&!framer.state.compactionThinkingFallback.isEmpty then
   ({ framer with state.compactionThinkingFallback := [] }).emitTextDeltaRaw env
    framer.state.compactionThinkingFallback
  else { framer with state.compactionThinkingFallback := [] }
 else framer.drainLeadingThinkingArtifact env true

def closeOpenBlocks (env:SseEnv) (framer:CursorSseFramer) : CursorSseFramer :=
 (framer.flushDeferredText env).closeThinking.closeText

def emitToolUseBlock (env:SseEnv) (framer:CursorSseFramer) (toolUseId toolName
 partialJson : String) : CursorSseFramer :=
 if framer.state.finalized then framer
 else
  let ready:=(framer.closeOpenBlocks env).ensureStart env
  let index:=ready.state.nextIndex
  let counted:={ ready with state.nextIndex := index+1 }
  ((counted.writeSseEvent (.contentBlockStart index (.toolUse toolUseId toolName))).writeSseEvent
   (.contentBlockDelta index (.inputJsonDelta partialJson))).writeSseEvent (.contentBlockStop index)

def emitFinalMessage (env:SseEnv) (framer:CursorSseFramer) (stopReason:String) : CursorSseFramer :=
 if framer.state.finalized then framer
 else
  let closed:=(framer.ensureStart env).closeOpenBlocks env
  let (input,output,cacheRead,cacheWrite):=closed.usageSnapshot
  let noted:=(closed.writeSseEvent (.messageDelta (some stopReason)
   ⟨input,output,cacheWrite,cacheRead⟩)).noteProgress env input output cacheRead cacheWrite
  { noted.writeSseEvent .messageStop with state.finalized := true }

def emitToolPause (env:SseEnv) (framer:CursorSseFramer) (toolUseId toolName partialJson : String) : CursorSseFramer :=
 (framer.emitToolUseBlock env toolUseId toolName partialJson).emitFinalMessage env "tool_use"

def finalize (env:SseEnv) (framer:CursorSseFramer) : CursorSseFramer :=
 if framer.state.finalized then framer else framer.emitFinalMessage env "end_turn"

end CursorSseFramer

abbrev CursorSseEncoder := CursorSseFramer

namespace CursorSseEncoder

def pushEvent (env:SseEnv) (encoder:CursorSseEncoder) (event:CursorStreamEvent) : CursorSseEncoder :=
 if encoder.state.finalized then encoder
 else
  match event with
  | .thinkingDelta text=>encoder.emitThinkingDelta env text.toList
  | .thinkingSignature signature=>encoder.emitThinkingSignature env signature.toList
  | .thinkingCompleted=>encoder.completeThinking
  | .textDelta text=>encoder.emitTextDelta env text.toList
  | .usage inputTokens outputTokens cacheReadTokens cacheWriteTokens=>
   encoder.recordUsage env inputTokens.toNat outputTokens.toNat cacheReadTokens.toNat cacheWriteTokens.toNat
  | .outputTokenDelta tokens=>encoder.addOutputTokens env tokens.toNat
  | .nativeTool toolUseId name input=>
   encoder.emitToolPause env toolUseId name ((env.toJson input).getD "\x7b\x7d")
  | .end=>encoder.emitFinalMessage env "end_turn"
  | .session _=>encoder

/-- Unlike the batch of the framer this one ends the message also without tools. -/
def emitToolBatch (env:SseEnv) (encoder:CursorSseEncoder) (tools:List (String×String×String)) : CursorSseEncoder :=
 (tools.foldl (fun (encoder:CursorSseFramer) tool=>
  encoder.emitToolUseBlock env tool.1 tool.2.1 tool.2.2) encoder).emitFinalMessage env "tool_use"

end CursorSseEncoder

end CursorProxy.SseFramer
