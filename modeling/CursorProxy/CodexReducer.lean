import CursorProxy.EosFilter

/-! The events of an upstream stream are reduced one after the other to the events of an answer.
The loop of `reduce_upstream_bytes` is `reduceAll`, its body `reduceEvent`. -/
namespace CursorProxy.CodexReducer
open JsonValues XmlElements EosFilter

inductive ResponsesContentPart where
 | inputText (text:String)
 | outputText (text:String)
 | inputImage (imageUrl:String) (detail:Option String)

inductive ResponsesInputItem where
 | additionalTools (id:Option String) (role:String) (tools:List JsonValue)
 | message (role:String) (content:List ResponsesContentPart)
 | functionCall (callId name arguments:String)
 | functionCallOutput (callId output:String)
 | reasoning (id:String) (summary:List JsonValue) (encryptedContent:String)

structure CodexUsage where
 inputTokens : Option ℕ := none
 outputTokens : Option ℕ := none
 inputTokensDetailsCached : Option ℕ := none
 outputTokensDetailsReasoning : Option ℕ := none

inductive ReducerEvent where
 | thinkingStart (index:ℕ)
 | thinkingDelta (index:ℕ) (text:String)
 | thinkingSignature (index:ℕ) (signature:String)
 | thinkingStop (index:ℕ)
 | textStart (index:ℕ)
 | textDelta (index:ℕ) (text:String)
 | textStop (index:ℕ)
 | toolStart (index:ℕ) (id name:String)
 | toolDelta (index:ℕ) (partialJson:String)
 | toolStop (index:ℕ)
 | toolProgress (index:ℕ)
 | progress
 | webSearch (index resultIndex:ℕ) (id query:String)
 | finish (stopReason terminalType:String) (continuationEligible:Bool)
  (usage:Option CodexUsage) (webSearchRequests:ℕ) (responseId:Option String)
  (outputItems:List ResponsesInputItem)

def stopEndTurn : String := "end_turn"
def stopToolUse : String := "tool_use"
def stopMaxTokens : String := "max_tokens"
def termIncomplete : String := "response.incomplete"

inductive UpstreamErrorKind where
 | rateLimit
 | overloaded
 | transient
 | failed

structure OpenBlockDiagnostic where
 outputIndex : ℕ
 anthropicIndex : ℕ
 kind : String
 name : Option String
 callId : Option String
 textBytes : Option ℕ
 argumentBytes : Option ℕ

structure UpstreamStreamDiagnostics where
 eventCount : ℕ
 lastEventType : Option String
 sawTerminalEvent : Bool
 openBlocks : List OpenBlockDiagnostic

structure UpstreamStreamError where
 kind : UpstreamErrorKind
 message : String
 retryAfterSeconds : Option ℕ
 diagnostics : Option UpstreamStreamDiagnostics

/-- `serde_json::from_str` and `to_string`, the URL-safe Base64 of a string,
`char::is_alphanumeric`, `str::to_lowercase`, and a number or the text of one as a float
that is cut to an integer. -/
structure CodexEnv where
 fromStr : String → Option JsonValue
 toJson : JsonValue → Option String
 encodeBase64 : String → String
 isAlphanumeric : Char → Bool
 toLowercase : String → String
 truncate : JsonValue → Option ℕ
 parseTruncated : String → Option ℕ

structure ReasoningReplay where
 id : String
 encryptedContent : String

structure PendingReasoning where
 id : Option String := none
 encryptedContent : Option String := none

def maxIdBytes : ℕ := 4*1024
def maxEncryptedContentBytes : ℕ := 8*1024*1024

def nonEmptyString (value:Option JsonValue) : Option String :=
 (value.bind JsonValue.asStr).filter fun text=>!text.isEmpty

namespace PendingReasoning

def capture (pending:PendingReasoning) (item:JsonValue) : PendingReasoning where
 id := (nonEmptyString (item.get "id")).or pending.id
 encryptedContent := (nonEmptyString (item.get "encrypted_content")).or pending.encryptedContent

def replay (pending:PendingReasoning) : Option ReasoningReplay :=
 pending.id.bind fun id=>pending.encryptedContent.map fun content=>⟨id,content⟩

end PendingReasoning

def encodeReasoningSignature (env:CodexEnv) (replay:ReasoningReplay) : Option String :=
 if replay.id.isEmpty||maxIdBytes<replay.id.utf8ByteSize||replay.encryptedContent.isEmpty ||
  maxEncryptedContentBytes<replay.encryptedContent.utf8ByteSize then none
 else some ("ccp:codex:v1:" ++ env.encodeBase64 replay.id ++ ":" ++ replay.encryptedContent)

def reasoningInputItem (replay:ReasoningReplay) : ResponsesInputItem :=
 .reasoning replay.id [] replay.encryptedContent

structure ToolBlock where
 index : ℕ
 outputIndex : ℕ
 callId : String
 name : String
 argsAccum : String
 hadDelta : Bool
 bufferUntilDone : Bool
 emittedArgs : Bool

inductive BlockState where
 | text (index:ℕ) (textAccum:String)
 | tool (block:ToolBlock)

structure ActiveThinking where
 outputIndex : ℕ
 anthropicIndex : ℕ

structure ReducerState where
 out : List ReducerEvent := []
 blocksByOutputIndex : AList fun _ : ℕ=>BlockState := ∅
 outputItemsByIndex : AList fun _ : ℕ=>ResponsesInputItem := ∅
 itemIdToOutputIndex : AList fun _ : String=>ℕ := ∅
 reasoningByOutputIndex : AList fun _ : ℕ=>PendingReasoning := ∅
 anthropicIndex : ℕ := 0
 activeThinking : Option ActiveThinking := none
 sawToolUse : Bool := false
 finalUsage : Option CodexUsage := none
 responseId : Option String := none
 terminalType : Option String := none
 continuationEligible : Bool := false
 incomplete : Bool := false
 webSearchRequests : ℕ := 0
 sawTerminal : Bool := false
 eventCount : ℕ := 0
 lastEventType : Option String := none

def intoValues {α:Type} (entries:AList fun _ : ℕ=>α) : List α :=
 (entries.entries.insertionSort fun first second=>first.1 ≤ second.1).map Sigma.snd

namespace ReducerState

def push (state:ReducerState) (event:ReducerEvent) : ReducerState :=
 { state with out := state.out++[event] }

def captureReasoning (state:ReducerState) (outputIndex:ℕ) (item:JsonValue) : ReducerState :=
 let pending:=(state.reasoningByOutputIndex.lookup outputIndex).getD {}
 { state with
   reasoningByOutputIndex :=
    state.reasoningByOutputIndex.insert outputIndex (pending.capture item) }

def takeSignature (env:CodexEnv) (state:ReducerState) (outputIndex:ℕ) : Option (ReasoningReplay×String) :=
 ((state.reasoningByOutputIndex.lookup outputIndex).bind PendingReasoning.replay).bind
  fun replay=>(encodeReasoningSignature env replay).map fun signature=>(replay,signature)

def removeReasoning (state:ReducerState) (outputIndex:ℕ) : ReducerState :=
 { state with reasoningByOutputIndex := state.reasoningByOutputIndex.erase outputIndex }

def insertItem (state:ReducerState) (outputIndex:ℕ) (item:ResponsesInputItem) : ReducerState :=
 { state with outputItemsByIndex := state.outputItemsByIndex.insert outputIndex item }

def finalizeActiveThinking (env:CodexEnv) (state:ReducerState) (active:ActiveThinking) : ReducerState :=
 let removed:=state.removeReasoning active.outputIndex
 let signed :=
  match state.takeSignature env active.outputIndex with
  | some (replay,signature)=>
   (removed.push (.thinkingSignature active.anthropicIndex signature)).insertItem
    active.outputIndex (reasoningInputItem replay)
  | none=>removed
 signed.push (.thinkingStop active.anthropicIndex)

def closeThinking (env:CodexEnv) (state:ReducerState) : ReducerState :=
 match state.activeThinking with
 | some active=>({ state with activeThinking := none }).finalizeActiveThinking env active
 | none=>state

def emitSignatureOnlyReasoning (env:CodexEnv) (state:ReducerState) (outputIndex:ℕ) : ReducerState :=
 let removed:=state.removeReasoning outputIndex
 match state.takeSignature env outputIndex with
 | some (replay,signature)=>
  let index:=state.anthropicIndex
  let counted:={ removed with anthropicIndex := index+1 }
  (((counted.push (.thinkingStart index)).push (.thinkingSignature index signature)).push
   (.thinkingStop index)).insertItem outputIndex (reasoningInputItem replay)
 | none=>removed

def captureOutputItem (state:ReducerState) (outputIndex:ℕ) : BlockState → ReducerState
 | .text _ textAccum=>
  if textAccum.isEmpty then state
  else state.insertItem outputIndex (.message "assistant" [.outputText textAccum])
 | .tool block=>
  state.insertItem outputIndex (.functionCall block.callId block.name block.argsAccum)

end ReducerState

def bufferedReadRepairTrailingWhitespaceBytes : ℕ := 1024
def bufferedToolMaxArgsBytes : ℕ := 5000000
def readOffsetRewriteThreshold : ℤ := 1000000

def shouldBufferToolArgs (name:String) : Bool := name == "Read"

/-- The note that is kept of a rewritten offset is not read by the reducer. -/
def sanitizeReadArgs (env:CodexEnv) (name args:String) : String :=
 if name != "Read" || args.isEmpty then args
 else
  match (env.fromStr args).bind JsonValue.asObject with
  | none=>args
  | some members=>
   let parsed:=JsonValue.object members
   let emptyPages:=((parsed.get "pages").bind JsonValue.asStr).any String.isEmpty
   let absurdOffset:=((parsed.get "offset").bind JsonValue.asI64).any
    fun offset=>decide (readOffsetRewriteThreshold ≤ offset)
   let sanitized:=members.filter fun member=>
    !(emptyPages&&member.1 == "pages")&&!(absurdOffset&&member.1 == "offset")
   if emptyPages||absurdOffset then (env.toJson (.object sanitized)).getD args else args

def isValidReadArgs (value:JsonValue) : Bool :=
 match value.asObject with
 | none=>false
 | some members=>
  let offset:=value.get "offset"
  let limit:=value.get "limit"
  members.all (fun member=>["file_path","offset","limit","pages"].contains member.1) &&
   (((value.get "file_path").bind JsonValue.asStr).any fun path=>!path.isEmpty) &&
   !((offset.bind JsonValue.asI64).any fun size=>decide (size<0)) &&
   !((limit.bind JsonValue.asI64).any fun size=>decide (size ≤ 0)) &&
   !(offset.any fun size=>size.asI64.isNone)&&!(limit.any fun size=>size.asI64.isNone) &&
   !((value.get "pages").any fun pages=>pages.asStr.isNone)

def parseReadArgsCandidate (env:CodexEnv) (args:String) : Option String :=
 (env.fromStr args).bind fun parsed=>
  if isValidReadArgs parsed then (env.toJson parsed).map (sanitizeReadArgs env "Read") else none

def repairWhitespaceStalledReadArgs (env:CodexEnv) (name args:String) : Option String :=
 if name != "Read" then none
 else
  let trimmed:=String.ofList (trimEnd args.toList)
  if args.utf8ByteSize-trimmed.utf8ByteSize<bufferedReadRepairTrailingWhitespaceBytes then
   none
  else (parseReadArgsCandidate env trimmed).or (parseReadArgsCandidate env (trimmed ++ "\x7d"))

def isRetryableTransportMessage (message:Text) : Bool :=
 ["you can retry your request","socket connection was closed unexpectedly",
  "connection closed unexpectedly","connection reset","operation timed out","econnreset",
  "epipe","etimedout","und_err_socket","fetch failed"].any fun pattern=>
   (CautiousScan.find pattern.toList message).isSome

def errorField (key:String) (payload:JsonValue) : Option JsonValue :=
 (member key (member "error" (payload.get "response"))).or (member key (payload.get "error"))

def upstreamFailureKind (env:CodexEnv) (payload:JsonValue) (message:String) : UpstreamErrorKind :=
 let status:=((payload.get "status").or (payload.get "status_code")).bind JsonValue.asU64
 let code:=(errorField "code" payload).bind JsonValue.asStr
 let errType:=(errorField "type" payload).bind JsonValue.asStr
 let lowerMsg:=(env.toLowercase message).toList
 let internal:=["server_error","internal_server_error","internal_error"]
 if status==some 529||code==some "overloaded_error" || errType==some "overloaded_error" ||
  (CautiousScan.find "overloaded".toList lowerMsg).isSome then .overloaded
 else if status.any (fun status=>decide (500 ≤ status ∧ status<600)) ||
  code.any internal.contains||errType.any internal.contains ||
  isRetryableTransportMessage lowerMsg then .transient
 else .failed

def retryAfterFromPayload (env:CodexEnv) (payload:JsonValue) : Option ℕ :=
 let headers:=payload.get "headers"
 let raw:=((((errorField "retry_after_seconds" payload).or
  (payload.get "retry_after_seconds")).or (member "retry-after" headers)).or
   (member "Retry-After" headers))
 match raw with
 | some (.number text)=>env.truncate (.number text)
 | some (.string text)=>env.parseTruncated text
 | _=>none

/-- The loop goes on, or the answer is finished within it. -/
inductive Outcome where
 | going (state:ReducerState)
 | finished (out:List ReducerEvent)

abbrev Reduced (α:Type) := Except UpstreamStreamError α

def strField (key:String) (payload:JsonValue) : String :=
 ((payload.get key).bind JsonValue.asStr).getD ""

def outputIndexOf (payload:JsonValue) : Option ℕ :=
 (payload.get "output_index").bind JsonValue.asU64

def webSearchQuery (item:JsonValue) : String :=
 match item.get "action" with
 | none => ""
 | some action=>
  (((action.get "query").bind JsonValue.asStr).or
   (((action.get "queries").bind JsonValue.asArray).bind
    fun queries=>queries.findSome? JsonValue.asStr)).getD ""

def serverToolUseIdFromCodexWebSearchId (env:CodexEnv) (id:String) : String :=
 "srvtoolu_" ++ String.ofList (id.toList.map fun char=>
  if env.isAlphanumeric char||char == '_' then char else '_')

def parseCodexUsage (response:JsonValue) : CodexUsage :=
 match response.get "usage" with
 | none=>{}
 | some usage=>
  { inputTokens := (usage.get "input_tokens").bind JsonValue.asU64
    outputTokens := (usage.get "output_tokens").bind JsonValue.asU64
    inputTokensDetailsCached :=
     (member "cached_tokens" (usage.get "input_tokens_details")).bind JsonValue.asU64
    outputTokensDetailsReasoning :=
     (member "reasoning_tokens" (usage.get "output_tokens_details")).bind JsonValue.asU64 }

def responseIsIncomplete (payload:JsonValue) (eventType:String) : Bool :=
 let response:=payload.get "response"
 eventType == "response.incomplete" ||
  (member "status" response).bind JsonValue.asStr==some "incomplete" ||
  ((member "reason" (member "incomplete_details" response)).bind JsonValue.asStr).isSome

def reduceRateLimits (env:CodexEnv) (state:ReducerState) (payload:JsonValue) : Reduced Outcome :=
 let limits:=payload.get "rate_limits"
 if (member "limit_reached" limits).bind JsonValue.asBool==some true then
  .error
   { kind := .rateLimit
     message := "rate limit reached"
     retryAfterSeconds :=
      (member "reset_after_seconds" (member "primary" limits)).bind env.truncate
     diagnostics := none }
 else .ok (.going (state.push .progress))

def reduceFailed (env:CodexEnv) (payload:JsonValue) : Reduced Outcome :=
 let response:=member "message" (member "error" (payload.get "response"))
 let top:=member "message" (payload.get "error")
 let message :=
  ((response.bind JsonValue.asStr).or (top.bind JsonValue.asStr)).getD "Upstream error"
 .error
  { kind := upstreamFailureKind env payload message
    message := message
    retryAfterSeconds := retryAfterFromPayload env payload
    diagnostics := none }

def openBlock (state:ReducerState) (outputIndex:ℕ) (block:BlockState) (event:ReducerEvent) : ReducerState :=
 ({ state with
  anthropicIndex := state.anthropicIndex+1
  blocksByOutputIndex := state.blocksByOutputIndex.insert outputIndex block }).push event

def reduceMessageAdded (env:CodexEnv) (state:ReducerState) (outputIndex:ℕ) (item:JsonValue) : ReducerState :=
 let closed:=state.closeThinking env
 let index:=closed.anthropicIndex
 let named :=
  match (item.get "id").bind JsonValue.asStr with
  | some id=>
   { closed with itemIdToOutputIndex := closed.itemIdToOutputIndex.insert id outputIndex }
  | none=>closed
 openBlock named outputIndex (.text index "") (.textStart index)

def reduceFunctionCallAdded (env:CodexEnv) (state:ReducerState) (outputIndex:ℕ) (item:JsonValue) : ReducerState :=
 let closed:=state.closeThinking env
 let index:=closed.anthropicIndex
 let callId:=strField "call_id" item
 let name:=strField "name" item
 openBlock { closed with sawToolUse := true } outputIndex
  (.tool
   { index := index
     outputIndex := outputIndex
     callId := callId
     name := name
     argsAccum := ""
     hadDelta := false
     bufferUntilDone := shouldBufferToolArgs name
     emittedArgs := false })
  (.toolStart index callId name)

def reduceItemAdded (env:CodexEnv) (state:ReducerState) (payload:JsonValue) : ReducerState :=
 match payload.get "item" with
 | none=>state
 | some item=>
  let outputIndex:=(outputIndexOf payload).getD 0
  let itemType:=strField "type" item
  if itemType == "reasoning" then state.captureReasoning outputIndex item
  else if itemType == "web_search_call" then state.push .progress
  else if itemType == "message" then reduceMessageAdded env state outputIndex item
  else if itemType == "function_call" then reduceFunctionCallAdded env state outputIndex item
  else state

def reduceSummaryPartAdded (state:ReducerState) (payload:JsonValue) : ReducerState :=
 match state.activeThinking with
 | some active=>
  if active.outputIndex=(outputIndexOf payload).getD 0 then
   state.push (.thinkingDelta active.anthropicIndex "\n\n")
  else state
 | none=>state

def reduceSummaryDelta (env:CodexEnv) (state:ReducerState) (payload:JsonValue) : ReducerState :=
 let outputIndex:=(outputIndexOf payload).getD 0
 let delta:=strField "delta" payload
 if delta.isEmpty then state
 else
  match state.activeThinking.filter fun active=>active.outputIndex=outputIndex with
  | some active=>state.push (.thinkingDelta active.anthropicIndex delta)
  | none=>
   let closed:=state.closeThinking env
   let index:=closed.anthropicIndex
   let started:=({ closed with
    anthropicIndex := index+1
    activeThinking := some ⟨outputIndex,index⟩ }).push (.thinkingStart index)
   started.push (.thinkingDelta index delta)

def reduceTextDelta (env:CodexEnv) (state:ReducerState) (payload:JsonValue) : ReducerState :=
 let closed:=state.closeThinking env
 let found :=
  match outputIndexOf payload with
  | some outputIndex=>some outputIndex
  | none=>
   ((payload.get "item_id").bind JsonValue.asStr).bind closed.itemIdToOutputIndex.lookup
 let delta:=strField "delta" payload
 if delta.isEmpty then closed
 else
  match found.bind fun outputIndex=>
   (closed.blocksByOutputIndex.lookup outputIndex).map fun block=>(outputIndex,block) with
  | some (outputIndex,.text index textAccum)=>
   ({ closed with
    blocksByOutputIndex := closed.blocksByOutputIndex.insert outputIndex
     (.text index (textAccum++delta)) }).push (.textDelta index delta)
  | _=>closed

def reduceArgumentsDelta (env:CodexEnv) (state:ReducerState) (payload:JsonValue) : Reduced Outcome :=
 match outputIndexOf payload with
 | none=>.ok (.going state)
 | some outputIndex=>
  let delta:=strField "delta" payload
  if delta.isEmpty then .ok (.going state)
  else
   match state.blocksByOutputIndex.lookup outputIndex with
   | some (.tool block)=>
    let args:=block.argsAccum++delta
    if bufferedToolMaxArgsBytes<args.utf8ByteSize then
     .error
      { kind := .failed
        message := "Buffered " ++ block.name ++ " tool arguments exceeded safe limits"
        retryAfterSeconds := none
        diagnostics := none }
    else
     let grown:={ block with argsAccum := args,hadDelta := true }
     let store:=fun block : ToolBlock=>{ state with
      blocksByOutputIndex := state.blocksByOutputIndex.insert outputIndex (.tool block) }
     if block.bufferUntilDone then
      match repairWhitespaceStalledReadArgs env block.name args with
      | some repaired=>
       let taken:={ state with
        blocksByOutputIndex := state.blocksByOutputIndex.erase outputIndex }
       let captured:=taken.captureOutputItem outputIndex
        (.tool { grown with argsAccum := repaired,emittedArgs := true })
       let stopped:=(captured.push (.toolDelta block.index repaired)).push
        (.toolStop block.index)
       .ok (.finished (stopped.push (.finish stopToolUse termIncomplete false none
        stopped.webSearchRequests none (intoValues stopped.outputItemsByIndex))).out)
      | none=>.ok (.going ((store grown).push (.toolProgress block.index)))
     else
      .ok (.going ((store { grown with emittedArgs := true }).push
       (.toolDelta block.index delta)))
   | _=>.ok (.going state)

def reduceArgumentsDone (state:ReducerState) (payload:JsonValue) : ReducerState :=
 match outputIndexOf payload with
 | none=>state
 | some outputIndex=>
  match state.blocksByOutputIndex.lookup outputIndex,
   (payload.get "arguments").bind JsonValue.asStr with
  | some (.tool block),some args=>
   if block.argsAccum.isEmpty then
    { state with
      blocksByOutputIndex := state.blocksByOutputIndex.insert outputIndex (.tool { block with argsAccum := args }) }
   else state
  | _,_=>state

def reduceReasoningDone (env:CodexEnv) (state:ReducerState) (outputIndex:ℕ) (item:JsonValue) : ReducerState :=
 let captured:=state.captureReasoning outputIndex item
 let hadActiveSummary:=state.activeThinking.any fun active=>active.outputIndex==outputIndex
 let closed:=captured.closeThinking env
 if hadActiveSummary then closed else closed.emitSignatureOnlyReasoning env outputIndex

def reduceWebSearchDone (env:CodexEnv) (state:ReducerState) (item:JsonValue) : ReducerState :=
 let closed:=state.closeThinking env
 let index:=closed.anthropicIndex
 ({ closed with
  anthropicIndex := index+2
  webSearchRequests := closed.webSearchRequests+1 }).push
   (.webSearch index (index+1) (serverToolUseIdFromCodexWebSearchId env (strField "id" item)) (webSearchQuery item))

/-- The arguments that an item brings with it count only if none came before. -/
def fillArguments (item:JsonValue) (block:ToolBlock) : ToolBlock :=
 match ((item.get "arguments").bind JsonValue.asStr).filter fun args=>!args.isEmpty with
 | some args=>
  if !block.argsAccum.isEmpty&&!block.emittedArgs||block.hadDelta then block
  else { block with argsAccum := args }
 | none=>block

def finishArguments (env:CodexEnv) (item:Option JsonValue) (block:ToolBlock) : ToolBlock×List ReducerEvent :=
 match item with
 | none=>(block,[])
 | some item=>
  let filled:=fillArguments item block
  if filled.argsAccum.isEmpty then (filled,[])
  else
   let sanitized :=
    { filled with argsAccum := sanitizeReadArgs env filled.name filled.argsAccum }
   if sanitized.bufferUntilDone||!sanitized.emittedArgs then
    ({ sanitized with emittedArgs := true },[.toolDelta sanitized.index sanitized.argsAccum])
   else (sanitized,[])

def reduceBlockDone (env:CodexEnv) (state:ReducerState) (outputIndex:ℕ) (item:Option JsonValue) : ReducerState :=
 match state.blocksByOutputIndex.lookup outputIndex with
 | none=>state
 | some block=>
  let taken:={ state with
   blocksByOutputIndex := state.blocksByOutputIndex.erase outputIndex }
  match block with
  | .text index textAccum=>
   (taken.captureOutputItem outputIndex (.text index textAccum)).push (.textStop index)
  | .tool tool=>
   let (finished,events):=finishArguments env item tool
   let written:={ taken with out := taken.out++events }
   (written.captureOutputItem outputIndex (.tool finished)).push (.toolStop finished.index)

def reduceItemDone (env:CodexEnv) (state:ReducerState) (payload:JsonValue) : ReducerState :=
 let outputIndex:=(outputIndexOf payload).getD 0
 let item:=payload.get "item"
 match item.filter fun item=>(item.get "type").bind JsonValue.asStr==some "reasoning" with
 | some item=>reduceReasoningDone env state outputIndex item
 | none=>
  match item.filter fun item=>
   (item.get "type").bind JsonValue.asStr==some "web_search_call" with
  | some item=>reduceWebSearchDone env state item
  | none=>reduceBlockDone env state outputIndex item

def reduceTerminal (state:ReducerState) (payload:JsonValue) (eventType:String) : ReducerState :=
 let incomplete:=state.incomplete||responseIsIncomplete payload eventType
 { state with
   sawTerminal := true
   terminalType := some eventType
   responseId := (member "id" (payload.get "response")).bind JsonValue.asStr
   finalUsage := (payload.get "response").map parseCodexUsage
   incomplete := incomplete
   continuationEligible :=
    (eventType == "response.completed" || eventType == "response.done")&&!incomplete }

def noteEvent (state:ReducerState) (eventType:String) : ReducerState :=
 { state with
   eventCount := state.eventCount+1
   lastEventType := some eventType }

def reduceEvent (env:CodexEnv) (before:ReducerState) (payload:JsonValue) : Reduced Outcome :=
 let eventType:=strField "type" payload
 let state:=noteEvent before eventType
 if eventType == "codex.rate_limits" then reduceRateLimits env state payload
 else if eventType == "keepalive" then .ok (.going (state.push .progress))
 else if eventType == "response.web_search_call.in_progress" ||
  eventType == "response.web_search_call.searching" ||
  eventType == "response.web_search_call.completed" then .ok (.going (state.push .progress))
 else if eventType == "response.failed" || eventType == "response.error" ||
  eventType == "error" then reduceFailed env payload
 else if eventType == "response.output_item.added" then
  .ok (.going (reduceItemAdded env state payload))
 else if eventType == "response.reasoning_summary_part.added" then
  .ok (.going (reduceSummaryPartAdded state payload))
 else if eventType == "response.reasoning_summary_text.delta" then
  .ok (.going (reduceSummaryDelta env state payload))
 else if eventType == "response.output_text.delta" then
  .ok (.going (reduceTextDelta env state payload))
 else if eventType == "response.function_call_arguments.delta" then
  reduceArgumentsDelta env state payload
 else if eventType == "response.function_call_arguments.done" then
  .ok (.going (reduceArgumentsDone state payload))
 else if eventType == "response.output_item.done" then
  .ok (.going (reduceItemDone env state payload))
 else if eventType == "response.completed" || eventType == "response.incomplete" ||
  eventType == "response.done" then .ok (.going (reduceTerminal state payload eventType))
 else .ok (.going state)

def describeOpenBlocks (blocks:AList fun _ : ℕ=>BlockState) : List OpenBlockDiagnostic :=
 (blocks.entries.insertionSort fun first second=>first.1 ≤ second.1).map fun entry=>
  match entry.2 with
  | .text index textAccum=>
   ⟨entry.1,index,"text",none,none,some textAccum.utf8ByteSize,none⟩
  | .tool block=>
   ⟨entry.1,block.index,"tool",some block.name,some block.callId,none,some block.argsAccum.utf8ByteSize⟩

def finishReduction (env:CodexEnv) (state:ReducerState) : Reduced (List ReducerEvent) :=
 let openBlocks:=describeOpenBlocks state.blocksByOutputIndex
 if !state.sawTerminal||!openBlocks.isEmpty then
  .error
   { kind := .transient
     message :=
      if state.sawTerminal then "upstream stream ended with open Codex output blocks"
      else "upstream stream ended before terminal Codex response event"
     retryAfterSeconds := none
     diagnostics := some ⟨state.eventCount,state.lastEventType,state.sawTerminal,openBlocks⟩ }
 else
  let closed:=state.closeThinking env
  let stopReason :=
   if closed.incomplete then stopMaxTokens
   else if closed.sawToolUse then stopToolUse
   else stopEndTurn
  .ok (closed.push (.finish stopReason (closed.terminalType.getD termIncomplete)
   closed.continuationEligible closed.finalUsage closed.webSearchRequests closed.responseId
   (intoValues closed.outputItemsByIndex))).out

/-- The payload of an event of the stream; what is blank or no JSON is passed over. -/
def payloadOf (env:CodexEnv) (data:String) : Option JsonValue :=
 let trimmed:=trim data.toList
 if trimmed.isEmpty then none else env.fromStr (String.ofList trimmed)

def reduceAll (env:CodexEnv) : ReducerState → List JsonValue → Reduced (List ReducerEvent)
 | state,[]=>finishReduction env state
 | state,payload::payloads=>
  match reduceEvent env state payload with
  | .error error=>.error error
  | .ok (.finished out)=>.ok out
  | .ok (.going next)=>reduceAll env next payloads

/-- The data of the events is what `parse_sse_events` makes of the bytes. -/
def reduceUpstream (env:CodexEnv) (events:List String) : Reduced (List ReducerEvent) :=
 reduceAll env {} (events.filterMap (payloadOf env))

end CursorProxy.CodexReducer
