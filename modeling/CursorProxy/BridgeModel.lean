import CursorProxy.AdvertisedNames
import CursorProxy.SseFramer
import CursorProxy.XmlParser

/-! A bridge reads a list of events and pauses at the first tool that the client knows. What is
left of the list, and the parser with what it has buffered, wait in the registry until the client
has sent the result of the tool. What a bridge tells its framer is kept as a list of calls. -/
namespace CursorProxy.BridgeModel
open JsonValues SandModel XmlElements XmlParser SseFramer AdvertisedNames

inductive FramerCall where
 | emitThinkingDelta (text:String)
 | emitThinkingSignature (signature:String)
 | completeThinking
 | emitTextDelta (text:Text)
 | recordUsage (inputTokens outputTokens cacheReadTokens cacheWriteTokens:UInt64)
 | addOutputTokens (tokens:UInt64)
 | emitToolPause (toolUseId name inputJson:String)
 | finalize

def FramerCall.apply (env:SseEnv) (framer:CursorSseFramer) : FramerCall → CursorSseFramer
 | .emitThinkingDelta text=>framer.emitThinkingDelta env text.toList
 | .emitThinkingSignature signature=>framer.emitThinkingSignature env signature.toList
 | .completeThinking=>framer.completeThinking
 | .emitTextDelta text=>framer.emitTextDelta env text
 | .recordUsage inputTokens outputTokens cacheReadTokens cacheWriteTokens=>
  framer.recordUsage env inputTokens.toNat outputTokens.toNat cacheReadTokens.toNat cacheWriteTokens.toNat
 | .addOutputTokens tokens=>framer.addOutputTokens env tokens.toNat
 | .emitToolPause toolUseId name inputJson=>framer.emitToolPause env toolUseId name inputJson
 | .finalize=>framer.finalize env

def sse (env:SseEnv) (messageId model:String) (calls:List FramerCall) : List SseEvent :=
 (calls.foldl (FramerCall.apply env) (.new messageId model)).output

/-- The parser with its allow-list, SHA-256 in hexadecimal, the schema of the client for the
input of a tool, `serde_json::to_string`, and the ids that the factory gives. -/
structure BridgeEnv where
 xml : XmlEnv
 sha256 : String → String
 adaptToolInputForClient : String → JsonValue → JsonValue
 toJson : JsonValue → Option String
 newId : ℕ → String

structure PendingCursorTool where
 toolUseId : String
 name : String
 input : JsonValue

structure CursorBridgeState where
 pendingTool : Option PendingCursorTool
 remainingEvents : List CursorStreamEvent
 xmlParser : CursorToolUseXmlParser

structure Bridge where
 calls : List FramerCall
 state : CursorBridgeState
 paused : Bool

def BridgeEnv.resolve (env:BridgeEnv) (name:String) : Option String :=
 resolveAdvertisedName env.sha256 name env.xml.allowedToolNames

def BridgeEnv.inputJson (env:BridgeEnv) (name:String) (input:JsonValue) : String :=
 (env.toJson (env.adaptToolInputForClient name input)).getD "\x7b\x7d"

namespace Bridge

def call (bridge:Bridge) (call:FramerCall) : Bridge :=
 { bridge with calls := bridge.calls++[call] }

/-- What comes while a tool is pending is left for later. -/
def queue (bridge:Bridge) (event:CursorStreamEvent) : Bridge :=
 { bridge with state.remainingEvents := bridge.state.remainingEvents++[event] }

def emitTool (env:BridgeEnv) (bridge:Bridge) (toolUseId name:String) (input:JsonValue) : Bridge :=
 match env.resolve name with
 | none=>bridge
 | some emitName=>
  { bridge.call (.emitToolPause toolUseId emitName (env.inputJson emitName input)) with
    state.pendingTool :=
     some ⟨toolUseId,emitName,env.adaptToolInputForClient emitName input⟩
    paused := true }

def emitRecovered (env:BridgeEnv) (bridge:Bridge) : RecoveredCursorEvent → Bridge
 | .text text=>bridge.call (.emitTextDelta text)
 | .toolUse tool=>bridge.emitTool env (env.newId tool.id) tool.name (.object tool.input)

/-- What the parser has recovered, as an event of its own. -/
def queued (env:BridgeEnv) : RecoveredCursorEvent → CursorStreamEvent
 | .text text=>.textDelta (String.ofList text)
 | .toolUse tool=>.nativeTool (env.newId tool.id) tool.name (.object tool.input)

def recover (env:BridgeEnv) (bridge:Bridge) (event:RecoveredCursorEvent) : Bridge :=
 if bridge.paused then bridge.queue (queued env event) else bridge.emitRecovered env event

def withParser (bridge:Bridge) (parser:CursorToolUseXmlParser) : Bridge :=
 { bridge with state.xmlParser := parser }

def push (env:BridgeEnv) (bridge:Bridge) (text:Text) : Bridge :=
 let pushed:=bridge.state.xmlParser.push env.xml text
 pushed.2.foldl (recover env) (bridge.withParser pushed.1)

def finalizeUnlessPaused (bridge:Bridge) : Bridge :=
 if bridge.paused then bridge else bridge.call .finalize

/-- The end of the events in the first message; what is flushed after a tool is emitted. -/
def endFirst (env:BridgeEnv) (bridge:Bridge) : Bridge :=
 let flushed:=bridge.state.xmlParser.flush env.xml
 (flushed.2.foldl (emitRecovered env) (bridge.withParser flushed.1)).finalizeUnlessPaused

/-- The end of the events in a later message; what is flushed after a tool is queued. -/
def endLater (env:BridgeEnv) (bridge:Bridge) : Bridge :=
 let flushed:=bridge.state.xmlParser.flush env.xml
 (flushed.2.foldl (recover env) (bridge.withParser flushed.1)).finalizeUnlessPaused

def onEvent (env:BridgeEnv) (onEnd:Bridge → Bridge) (bridge:Bridge) (event:CursorStreamEvent) : Bridge :=
 if bridge.paused then bridge.queue event
 else
  match event with
  | .thinkingDelta text=>bridge.call (.emitThinkingDelta text)
  | .thinkingSignature signature=>bridge.call (.emitThinkingSignature signature)
  | .thinkingCompleted=>bridge.call .completeThinking
  | .nativeTool toolUseId name input=>bridge.emitTool env toolUseId name input
  | .textDelta text=>bridge.push env text.toList
  | .usage inputTokens outputTokens cacheReadTokens cacheWriteTokens=>
   bridge.call (.recordUsage inputTokens outputTokens cacheReadTokens cacheWriteTokens)
  | .outputTokenDelta tokens=>bridge.call (.addOutputTokens tokens)
  | .session _=>bridge
  | .end=>onEnd bridge

/-- Behind the loop, unless a tool is pending, both messages end like the first one. -/
def finish (env:BridgeEnv) (bridge:Bridge) : Bridge :=
 if bridge.paused then bridge else bridge.endFirst env

def began (parser:CursorToolUseXmlParser) : Bridge := ⟨[],⟨none,[],parser⟩,false⟩

def run (env:BridgeEnv) (onEnd:Bridge → Bridge) (events:List CursorStreamEvent) (bridge:Bridge) : Bridge :=
 (events.foldl (onEvent env onEnd) bridge).finish env

end Bridge

abbrev BridgeRegistry := AList fun _ : String=>CursorBridgeState

def pendingTool (registry:BridgeRegistry) (sessionId:String) : Option PendingCursorTool :=
 (registry.lookup sessionId).bind CursorBridgeState.pendingTool

def settle (registry:BridgeRegistry) (sessionId:String) (bridge:Bridge) : BridgeRegistry :=
 if bridge.paused then registry.insert sessionId bridge.state else registry

def startBridge (env:BridgeEnv) (events:List CursorStreamEvent) : Bridge :=
 (Bridge.began .new).run env (Bridge.endFirst env) events

def resumeBridge (env:BridgeEnv) (state:CursorBridgeState) : Bridge :=
 if state.remainingEvents.isEmpty then (Bridge.began state.xmlParser).call .finalize
 else (Bridge.began state.xmlParser).run env (Bridge.endLater env) state.remainingEvents

def startCursorToolBridge (env:BridgeEnv) (registry:BridgeRegistry) (sessionId:String)
 (events:List CursorStreamEvent) : List FramerCall×Bool×BridgeRegistry :=
 let bridge:=startBridge env events
 (bridge.calls,bridge.paused,settle registry sessionId bridge)

def resumeCursorToolBridge (env:BridgeEnv) (registry:BridgeRegistry) (sessionId:String) :
 List FramerCall×BridgeRegistry :=
 let bridge:=resumeBridge env ((registry.lookup sessionId).getD ⟨none,[],.new⟩)
 (bridge.calls,settle (registry.erase sessionId) sessionId bridge)

/-- The messages of a session that is resumed until no tool is pending. -/
inductive Resumes (env:BridgeEnv) (sessionId:String) :
 BridgeRegistry → List (List FramerCall) → Prop where
 | done {registry:BridgeRegistry} (hpending:pendingTool registry sessionId=none) :
  Resumes env sessionId registry []
 | resume {registry:BridgeRegistry} {messages:List (List FramerCall)}
  (hpending:(pendingTool registry sessionId).isSome)
  (hrest:Resumes env sessionId (resumeCursorToolBridge env registry sessionId).2 messages) :
  Resumes env sessionId registry
   ((resumeCursorToolBridge env registry sessionId).1::messages)

/-- The first message, and the later ones if it has paused. -/
def Emits (env:BridgeEnv) (registry:BridgeRegistry) (sessionId:String)
 (events:List CursorStreamEvent) (messages:List (List FramerCall)) : Prop :=
 let started:=startCursorToolBridge env registry sessionId events
 ∃ later,messages=started.1::later ∧
  if started.2.1 then Resumes env sessionId started.2.2 later else later=[]

end CursorProxy.BridgeModel
