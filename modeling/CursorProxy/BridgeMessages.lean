import CursorProxy.BridgeModel
import CursorProxy.SseContent

namespace CursorProxy.BridgeMessages
open SseFramer SseWellFormed BridgeModel

/-- The call as one of those that keep the stream in order. -/
def opOf : FramerCall → SseOp
 | .emitThinkingDelta text=>.emitThinkingDelta text.toList
 | .emitThinkingSignature signature=>.emitThinkingSignature signature.toList
 | .completeThinking=>.completeThinking
 | .emitTextDelta text=>.emitTextDelta text
 | .recordUsage inputTokens outputTokens cacheReadTokens cacheWriteTokens=>
  .recordUsage inputTokens.toNat outputTokens.toNat cacheReadTokens.toNat cacheWriteTokens.toNat
 | .addOutputTokens tokens=>.addOutputTokens tokens.toNat
 | .emitToolPause toolUseId name inputJson=>.emitToolPause toolUseId name inputJson
 | .finalize=>.finalize

theorem apply_op (env:SseEnv) (framer:CursorSseFramer) (call:FramerCall) :
 call.apply env framer=(opOf call).apply env framer:=by
 cases call <;> rfl

end CursorProxy.BridgeMessages
