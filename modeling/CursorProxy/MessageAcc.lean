import CursorProxy.SseFramer

namespace CursorProxy.MessageAcc
open JsonValues SandModel XmlElements SseFramer

inductive MessageBlock where
 | thinking (thinking:Text) (signature:Option Text)
 | text (text:Text)
 | toolUse (id name:String) (input:JsonValue)

structure Message where
 id : String
 content : List MessageBlock
 model : String
 stopReason : String
 usage : SseUsage

structure AnthropicJsonAcc where
 text : Text
 content : List MessageBlock
 thinking : Option (Text×Option Text)
 hasVisibleText : Bool
 compactionMode : Bool
 compactionThinkingFallback : Text
 compactionSeenText : Bool
 tools : List (String×String×JsonValue)
 inputTokens : ℕ
 outputTokens : ℕ
 cacheRead : ℕ
 cacheWrite : ℕ
 estimatedInput : ℕ

namespace AnthropicJsonAcc

def newMode (estimatedInput:ℕ) (compactionMode:Bool) : AnthropicJsonAcc where
 text := []
 content := []
 thinking := none
 hasVisibleText := false
 compactionMode := compactionMode
 compactionThinkingFallback := []
 compactionSeenText := false
 tools := []
 inputTokens := 0
 outputTokens := 0
 cacheRead := 0
 cacheWrite := 0
 estimatedInput := estimatedInput

def flushText (acc:AnthropicJsonAcc) : AnthropicJsonAcc :=
 if acc.text.isEmpty then acc
 else { acc with content := acc.content++[.text acc.text],text := [] }

def flushThinking (acc:AnthropicJsonAcc) : AnthropicJsonAcc :=
 match acc.thinking with
 | some (thinking,signature)=>
  { acc with content := acc.content++[.thinking thinking signature],thinking := none }
 | none=>acc

def pushNativeTool (acc:AnthropicJsonAcc) (id name:String) (input:JsonValue) : AnthropicJsonAcc :=
 let flushed:=acc.flushThinking
 { flushed with tools := flushed.tools++[(id,name,input)] }

def pushText (acc:AnthropicJsonAcc) (text:Text) : AnthropicJsonAcc :=
 let flushed:=acc.flushThinking
 let noted :=
  if flushed.compactionMode&&!flushed.compactionSeenText then
   { flushed with compactionSeenText := true,compactionThinkingFallback := [] }
  else flushed
 { noted with
   hasVisibleText := noted.hasVisibleText||!text.isEmpty
   text := noted.text++text }

def pushThinking (acc:AnthropicJsonAcc) (text:Text) : AnthropicJsonAcc :=
 if acc.compactionMode then
  if acc.compactionSeenText then acc
  else { acc with compactionThinkingFallback := acc.compactionThinkingFallback++text }
 else
  let flushed:=acc.flushText
  let (thinking,signature):=flushed.thinking.getD ([],none)
  { flushed with thinking := some (thinking++text,signature) }

def pushSignature (acc:AnthropicJsonAcc) (signature:Text) : AnthropicJsonAcc :=
 if acc.compactionMode||signature.isEmpty then acc
 else
  let flushed:=acc.flushText
  { flushed with thinking := some ((flushed.thinking.getD ([],none)).1,some signature) }

def push (acc:AnthropicJsonAcc) : CursorStreamEvent → AnthropicJsonAcc
 | .textDelta text=>acc.pushText text.toList
 | .usage inputTokens outputTokens cacheReadTokens cacheWriteTokens=>
  { acc with
    inputTokens := inputTokens.toNat
    outputTokens := outputTokens.toNat
    cacheRead := cacheReadTokens.toNat
    cacheWrite := cacheWriteTokens.toNat }
 | .outputTokenDelta tokens=>
  { acc with outputTokens := saturatingAdd acc.outputTokens tokens.toNat }
 | .nativeTool toolUseId name input=>acc.pushNativeTool toolUseId name input
 | .thinkingDelta text=>acc.pushThinking text.toList
 | .thinkingSignature signature=>acc.pushSignature signature.toList
 | .thinkingCompleted | .end=>acc.flushThinking
 | .session _=>acc

def pushAll (acc:AnthropicJsonAcc) (events:List CursorStreamEvent) : AnthropicJsonAcc :=
 events.foldl push acc

def normalizedUsage (acc:AnthropicJsonAcc) : ℕ×ℕ×ℕ×ℕ :=
 normalizeCursorUsageForAnthropic (max acc.inputTokens (max acc.estimatedInput 1))
  acc.outputTokens acc.cacheRead acc.cacheWrite

def intoMessageJson (acc:AnthropicJsonAcc) (messageId model:String) : Message :=
 let flushed:=acc.flushThinking
 let text :=
  if flushed.compactionMode&&flushed.text.isEmpty then flushed.compactionThinkingFallback
  else flushed.text
 let tools:=flushed.tools.map fun tool=>MessageBlock.toolUse tool.1 tool.2.1 tool.2.2
 let shown:=if !text.isEmpty||flushed.tools.isEmpty&&flushed.content.isEmpty then
  [MessageBlock.text text] else []
 let (inputTokens,outputTokens,cacheReadTokens,cacheWriteTokens):=flushed.normalizedUsage
 { id := messageId
   content := flushed.content++shown++tools
   model := model
   stopReason := if flushed.tools.isEmpty then "end_turn" else "tool_use"
   usage := ⟨inputTokens,outputTokens,cacheWriteTokens,cacheReadTokens⟩ }

end AnthropicJsonAcc
end CursorProxy.MessageAcc
