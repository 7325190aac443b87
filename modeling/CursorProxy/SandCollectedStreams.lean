import CursorProxy.BridgePauses
import CursorProxy.MessageContent
import CursorProxy.SandCollected

namespace CursorProxy.SandCollectedStreams
open JsonValues SandModel XmlElements XmlParser SseFramer SseWellFormed MessageAcc BridgeModel
open SandCollected Reading

def toolStart : SseEvent → Bool
 | .contentBlockStart _ (.toolUse _ _)=>true
 | _=>false

theorem toolStart_read (events:List SseEvent) : ∀ client:Client,
  (∃ block∈(events.foldl Client.read client).blocks,block.kind=.toolUse) ↔
   (∃ block∈client.blocks,block.kind=.toolUse) ∨ events.any toolStart=true:=by
 induction events with
 | nil=>exact fun _=>⟨Or.inl,(Or.resolve_right · (nofun))⟩
 | cons event events ih=>
  intro client
  rw [List.foldl_cons,ih,List.any_cons,Bool.or_eq_true,← or_assoc]
  refine or_congr_left ?_
  cases event with
  | contentBlockStart index block=>
   unfold Client.read
   dsimp only
   constructor
   · rintro ⟨other,hmem,hkind⟩
     rcases List.mem_append.mp hmem with hmem | hmem
     · exact Or.inl ⟨other,hmem,hkind⟩
     · rw [List.mem_singleton.mp hmem] at hkind
       cases block with
       | toolUse id name=>exact Or.inr rfl
       | text=>exact (nomatch hkind)
       | thinking=>exact (nomatch hkind)
   · rintro (⟨other,hmem,hkind⟩ | hstart)
     · exact ⟨other,List.mem_append_left _ hmem,hkind⟩
     · cases block with
       | toolUse id name=>exact ⟨_,List.mem_append_right _ (List.mem_singleton_self _),rfl⟩
       | text=>exact (nomatch hstart)
       | thinking=>exact (nomatch hstart)
  | contentBlockDelta index delta=>
   have hkind:∀ other:ClientBlock,(other.take index delta).kind=other.kind:=by
    intro other
    unfold ClientBlock.take
    split <;> rfl
   unfold Client.read
   dsimp only
   constructor
   · rintro ⟨other,hmem,htool⟩
     obtain ⟨first,hfirst,rfl⟩:=List.mem_map.mp hmem
     exact Or.inl ⟨first,hfirst,(hkind first).symm.trans htool⟩
   · rintro (⟨other,hmem,htool⟩ | hstart)
     · exact ⟨_,List.mem_map_of_mem hmem,(hkind other).trans htool⟩
     · exact (nomatch hstart)
  | _=>exact (or_iff_left (nofun)).symm

section framer
variable {env:SseEnv} {framer:CursorSseFramer}
open CursorSseFramer

def written (framer:CursorSseFramer) : Bool := framer.output.any toolStart

theorem written_write {event:SseEvent} (h:toolStart event=false) :
  written (framer.writeSseEvent event)=written framer:=by
 unfold written writeSseEvent
 rw [List.any_append,List.any_cons,h]
 simp

theorem written_ensureStart (env:SseEnv) (framer:CursorSseFramer) :
  written (framer.ensureStart env)=written framer:=by
 unfold ensureStart
 split
 · rfl
 · exact written_write rfl

theorem written_closeThinking (framer:CursorSseFramer) : written framer.closeThinking=written framer:=by
 unfold closeThinking
 split
 · exact written_write rfl
 · rfl

theorem written_closeText (framer:CursorSseFramer) : written framer.closeText=written framer:=by
 unfold closeText
 split
 · exact written_write rfl
 · rfl

theorem written_openThinking (env:SseEnv) (framer:CursorSseFramer) :
  written (framer.openThinking env).1=written framer:=by
 unfold openThinking
 split
 · rfl
 · split
   · rfl
   · refine (written_write rfl).trans ((written_ensureStart env _).trans ?_)
     split
     · exact written_closeText framer
     · rfl

theorem written_openText (env:SseEnv) (framer:CursorSseFramer) : written (framer.openText env).1=written framer:=by
 unfold openText
 split
 · rfl
 · split
   · rfl
   · refine (written_write rfl).trans ((written_ensureStart env _).trans ?_)
     split
     · exact written_closeThinking framer
     · rfl

theorem written_noteGeneratedText (framer:CursorSseFramer) (text:Text) :
  written (framer.noteGeneratedText text)=written framer:=by
 unfold noteGeneratedText
 split <;> rfl

theorem written_maybeEmitUsageProgress (env:SseEnv) (force:Bool) (framer:CursorSseFramer) :
  written (framer.maybeEmitUsageProgress env force)=written framer :=
 maybeEmitUsageProgress_kept written env force framer (fun _=>rfl) fun _ _ _ _ _ _ => written_write rfl

theorem written_addOutputTokens (env:SseEnv) (framer:CursorSseFramer) (tokens:ℕ) :
  written (framer.addOutputTokens env tokens)=written framer:=by
 unfold addOutputTokens
 split
 · rfl
 · exact written_maybeEmitUsageProgress env false _

theorem written_recordUsage (env:SseEnv) (framer:CursorSseFramer)
  (inputTokens outputTokens cacheReadTokens cacheWriteTokens:ℕ) :
  written (framer.recordUsage env inputTokens outputTokens cacheReadTokens cacheWriteTokens) = written framer:=by
 unfold recordUsage
 split
 · rfl
 · split
   · exact written_addOutputTokens env framer _
   · exact written_maybeEmitUsageProgress env true _

theorem written_emitTextDeltaRaw (env:SseEnv) (framer:CursorSseFramer) (text:Text) :
  written (framer.emitTextDeltaRaw env text)=written framer:=by
 have hopen:=written_openText env framer
 unfold emitTextDeltaRaw
 split
 · rfl
 · split
   · rename_i heq
     rw [heq] at hopen
     exact hopen
   · rename_i heq
     rw [heq] at hopen
     refine (written_maybeEmitUsageProgress env false _).trans ?_
     exact (written_write rfl).trans ((written_noteGeneratedText _ _).trans hopen)

theorem written_emitThinkingDelta (env:SseEnv) (framer:CursorSseFramer) (text:Text) :
  written (framer.emitThinkingDelta env text)=written framer:=by
 have hopen:=written_openThinking env framer
 unfold emitThinkingDelta
 split
 · split <;> rfl
 · split
   · rename_i heq
     rw [heq] at hopen
     exact hopen
   · rename_i heq
     rw [heq] at hopen
     exact (written_write rfl).trans ((written_noteGeneratedText _ _).trans hopen)

theorem written_emitThinkingSignature (env:SseEnv) (framer:CursorSseFramer) (signature:Text) :
  written (framer.emitThinkingSignature env signature)=written framer:=by
 have hopen:=written_openThinking env framer
 unfold emitThinkingSignature
 split
 · rfl
 · split
   · rename_i heq
     rw [heq] at hopen
     exact hopen
   · rename_i heq
     rw [heq] at hopen
     exact (written_write rfl).trans hopen

theorem written_completeThinking (framer:CursorSseFramer) : written framer.completeThinking=written framer:=by
 unfold completeThinking
 split
 · rfl
 · exact written_closeThinking framer

theorem written_drainPassthrough (env:SseEnv) (framer:CursorSseFramer) :
  written (framer.drainPassthrough env)=written framer:=by
 unfold drainPassthrough
 split
 · rfl
 · exact written_emitTextDeltaRaw env _ _

theorem written_drainBody (env:SseEnv) (flush:Bool) (framer:CursorSseFramer) :
  written (framer.drainBody env flush)=written framer:=by
 unfold CursorSseFramer.drainBody
 dsimp only
 split
 · refine (written_drainPassthrough env _).trans ?_
   split
   · exact written_emitThinkingDelta env framer _
   · rfl
 · split
   · exact written_emitThinkingDelta env _ _
   · split
     · exact written_emitThinkingDelta env _ _
     · rfl

theorem written_drainCandidate (env:SseEnv) (flush:Bool) (framer:CursorSseFramer) :
  written (framer.drainCandidate env flush)=written framer:=by
 unfold drainCandidate
 dsimp only
 split
 · rfl
 · split
   · exact written_drainPassthrough env _
   · split
     · exact written_drainBody env flush _
     · split
       · rfl
       · exact written_drainPassthrough env _

theorem written_drainLeadingThinkingArtifact (env:SseEnv) (flush:Bool) (framer:CursorSseFramer) :
  written (framer.drainLeadingThinkingArtifact env flush)=written framer:=by
 unfold drainLeadingThinkingArtifact
 split
 · exact written_drainPassthrough env framer
 · exact written_drainPassthrough env framer
 · exact written_drainCandidate env flush framer
 · exact written_drainBody env flush framer

theorem written_emitTextDelta (env:SseEnv) (framer:CursorSseFramer) (text:Text) :
  written (framer.emitTextDelta env text)=written framer:=by
 unfold emitTextDelta
 split
 · split
   · rfl
   · split
     · exact written_emitTextDeltaRaw env framer text
     · exact written_emitTextDeltaRaw env _ text
 · split
   · rfl
   · split
     · exact written_drainLeadingThinkingArtifact env false _
     · exact written_drainLeadingThinkingArtifact env false _
     · exact written_emitTextDeltaRaw env framer text
     · exact written_emitTextDeltaRaw env framer text

theorem written_closeOpenBlocks (env:SseEnv) (framer:CursorSseFramer) :
  written (framer.closeOpenBlocks env)=written framer:=by
 unfold closeOpenBlocks
 refine (written_closeText _).trans ((written_closeThinking _).trans ?_)
 unfold flushDeferredText
 split
 · split
   · exact written_emitTextDeltaRaw env _ _
   · rfl
 · exact written_drainLeadingThinkingArtifact env true framer

structure Going (framer:CursorSseFramer) : Prop where
 framed : Framed framer
 finalized : framer.state.finalized=false
 written : written framer=false

/-- The stop reason tells whether a tool was written. -/
structure Finished (framer:CursorSseFramer) : Prop where
 ended : Ended framer
 stop : ∃ body usage,framer.output=body++[.messageDelta
  (some (if written framer then "tool_use" else "end_turn")) usage,.messageStop]

theorem emitFinalMessage_finished (env:SseEnv) (hframed:Framed framer)
  (hfinalized:framer.state.finalized=false) {stopReason:String}
  (hreason:stopReason=if written framer then "tool_use" else "end_turn") :
  Finished (framer.emitFinalMessage env stopReason):=by
 have hopen:¬framer.state.finalized=true:=by
  rw [hfinalized]
  exact Bool.false_ne_true
 have houtput:∃ usage,(framer.emitFinalMessage env stopReason).output =
   ((framer.ensureStart env).closeOpenBlocks env).output ++
    [.messageDelta (some stopReason) usage,.messageStop]:=by
  unfold emitFinalMessage
  rw [if_neg hopen]
  exact ⟨_,List.append_assoc _ [_] [_]⟩
 obtain ⟨usage,houtput⟩:=houtput
 have hwritten:written (framer.emitFinalMessage env stopReason)=written framer:=by
  rw [← written_ensureStart env framer,← written_closeOpenBlocks env (framer.ensureStart env)]
  unfold written
  rw [houtput,List.any_append]
  exact Bool.or_false _
 refine ⟨emitFinalMessage_ended hframed stopReason,((framer.ensureStart env).closeOpenBlocks env).output,usage,?_⟩
 rw [hwritten,← hreason]
 exact houtput

theorem emitToolUseBlock_written (env:SseEnv) (hfinalized:framer.state.finalized=false)
  (toolUseId toolName partialJson:String) :
  written (framer.emitToolUseBlock env toolUseId toolName partialJson)=true:=by
 have hopen:¬framer.state.finalized=true:=by
  rw [hfinalized]
  exact Bool.false_ne_true
 unfold emitToolUseBlock
 rw [if_neg hopen]
 unfold written writeSseEvent
 dsimp only
 rw [List.any_append,List.any_append,List.any_append]
 simp [toolStart]

def isEnd : FramerCall → Bool
 | .emitToolPause _ _ _=>true
 | .finalize=>true
 | _=>false

theorem Going.keeps {next:CursorSseFramer} (h:Going framer) (hkeeps:Keeps framer next)
  (hwritten:SandCollectedStreams.written next=SandCollectedStreams.written framer) : Going next :=
 ⟨hkeeps.framed h.framed,hkeeps.finalized.trans h.finalized,hwritten.trans h.written⟩

theorem Going.apply (env:SseEnv) (h:Going framer) (call:FramerCall) :
  (isEnd call=false → Going (call.apply env framer)) ∧ (isEnd call=true → Finished (call.apply env framer)):=by
 cases call with
 | emitThinkingDelta text=>
  exact ⟨fun _=>h.keeps (keeps_emitThinkingDelta env framer _)
   (written_emitThinkingDelta env framer _),nofun⟩
 | emitThinkingSignature signature=>
  exact ⟨fun _=>h.keeps (keeps_emitThinkingSignature env framer _)
   (written_emitThinkingSignature env framer _),nofun⟩
 | completeThinking=>
  exact ⟨fun _=>h.keeps (keeps_completeThinking framer) (written_completeThinking framer),
   nofun⟩
 | emitTextDelta text=>
  exact ⟨fun _=>h.keeps (keeps_emitTextDelta env framer _)
   (written_emitTextDelta env framer _),nofun⟩
 | recordUsage inputTokens outputTokens cacheReadTokens cacheWriteTokens=>
  exact ⟨fun _=>h.keeps (keeps_recordUsage env framer _ _ _ _)
   (written_recordUsage env framer _ _ _ _),nofun⟩
 | addOutputTokens tokens=>
  exact ⟨fun _=>h.keeps (keeps_addOutputTokens env framer _)
   (written_addOutputTokens env framer _),nofun⟩
 | emitToolPause toolUseId name inputJson=>
  have hkeeps:=keeps_emitToolUseBlock env framer toolUseId name inputJson
  refine ⟨nofun,fun _=>emitFinalMessage_finished env (hkeeps.framed h.framed)
   (hkeeps.finalized.trans h.finalized) ?_⟩
  rw [emitToolUseBlock_written env h.finalized]
  rfl
 | finalize=>
  have hopen:¬framer.state.finalized=true:=by
   rw [h.finalized]
   exact Bool.false_ne_true
  refine ⟨nofun,fun _=>?_⟩
  change Finished (framer.finalize env)
  unfold finalize
  rw [if_neg hopen]
  refine emitFinalMessage_finished env h.framed h.finalized ?_
  rw [h.written]
  rfl

theorem Going.finished (env:SseEnv) (calls:List FramerCall) : ∀ {framer:CursorSseFramer},
  Going framer → calls.any isEnd=true → Finished (calls.foldl (FramerCall.apply env) framer):=by
 have hstays:∀ calls:List FramerCall,∀ {framer:CursorSseFramer},Finished framer →
   Finished (calls.foldl (FramerCall.apply env) framer):=by
  intro calls
  induction calls with
  | nil=>exact id
  | cons call calls ih=>
   intro framer h
   rw [List.foldl_cons,BridgeMessages.apply_op,apply_ended h.ended]
   exact ih h
 induction calls with
 | nil=>exact fun _ hend=>(nomatch hend)
 | cons call calls ih=>
  intro framer h hend
  rw [List.foldl_cons]
  cases hcall:isEnd call with
  | true=>exact hstays calls ((h.apply env call).2 hcall)
  | false=>
   rw [List.any_cons,hcall,Bool.false_or] at hend
   exact ih ((h.apply env call).1 hcall) hend

end framer

/-- A bridge that pauses has ended its message. -/
def Marked (bridge:Bridge) : Prop := bridge.paused=true → bridge.calls.any isEnd=true

section bridge
variable {bridge:Bridge}

theorem marked_call (h:Marked bridge) (call:FramerCall) : Marked (bridge.call call):=by
 intro hpaused
 unfold Bridge.call
 rw [List.any_append,h hpaused]
 rfl

theorem foldl_marked {α:Type} {next:Bridge → α → Bridge}
  (hnext:∀ bridge event,Marked bridge → Marked (next bridge event)) (events:List α) :
  ∀ {bridge:Bridge},Marked bridge → Marked (events.foldl next bridge):=by
 induction events with
 | nil=>exact id
 | cons event events ih=>exact fun h=>ih (hnext _ _ h)

theorem marked_emitTool (env:BridgeEnv) (h:Marked bridge) (toolUseId name:String)
  (input:JsonValue) : Marked (bridge.emitTool env toolUseId name input):=by
 unfold Bridge.emitTool
 split
 · exact h
 · intro _
   unfold Bridge.call
   rw [List.any_append]
   exact Bool.or_true _

theorem marked_emitRecovered (env:BridgeEnv) (h:Marked bridge)
  (event:RecoveredCursorEvent) : Marked (bridge.emitRecovered env event):=by
 cases event with
 | text text=>exact marked_call h _
 | toolUse tool=>exact marked_emitTool env h _ _ _

theorem marked_recover (env:BridgeEnv) (h:Marked bridge) (event:RecoveredCursorEvent) :
  Marked (bridge.recover env event):=by
 unfold Bridge.recover
 split
 · exact h
 · exact marked_emitRecovered env h event

theorem endFirst_ends (env:BridgeEnv) (h:Marked bridge) : (bridge.endFirst env).calls.any isEnd=true:=by
 unfold Bridge.endFirst Bridge.finalizeUnlessPaused
 dsimp only
 have hmarked:=foldl_marked (fun bridge event hbridge=>marked_emitRecovered env hbridge event)
  (bridge.state.xmlParser.flush env.xml).2
  (show Marked (bridge.withParser (bridge.state.xmlParser.flush env.xml).1) from h)
 split
 · rename_i hpaused
   exact hmarked hpaused
 · unfold Bridge.call
   rw [List.any_append]
   exact Bool.or_true _

theorem marked_onEvent (env:BridgeEnv) (h:Marked bridge) (event:CursorStreamEvent) :
  Marked (bridge.onEvent env (Bridge.endFirst env) event):=by
 unfold Bridge.onEvent
 split
 · exact h
 · cases event with
   | textDelta text=>
    exact foldl_marked (fun bridge event hbridge=>marked_recover env hbridge event) _
     (show Marked (bridge.withParser _) from h)
   | nativeTool toolUseId name input=>exact marked_emitTool env h _ _ _
   | session=>exact h
   | «end» => exact fun _=>endFirst_ends env h
   | _=>exact marked_call h _

theorem startBridge_ends (env:BridgeEnv) (events:List CursorStreamEvent) :
  (startBridge env events).calls.any isEnd=true:=by
 unfold startBridge Bridge.run Bridge.finish
 have hmarked:=foldl_marked (fun bridge event hbridge=>marked_onEvent env hbridge event)
  events (show Marked (Bridge.began .new) from nofun)
 split
 · rename_i hpaused
   exact hmarked hpaused
 · exact endFirst_ends env hmarked

end bridge

def bridgeStream (sseEnv:SseEnv) (env:BridgeEnv) (messageId model:String)
  (events:List CursorStreamEvent) : List SseEvent :=
 sse sseEnv messageId model (startBridge env events).calls

theorem bridgeStream_settled (sseEnv:SseEnv) (env:BridgeEnv)
  (fromStr:String → Option JsonValue) (messageId model:String) (estimatedInput:ℕ) (events:List CursorStreamEvent) :
  Settled fromStr estimatedInput
    ((bridgeStream sseEnv env messageId model events).foldl (Reading.read fromStr) (Reading.start estimatedInput))
    (Client.readAll (bridgeStream sseEnv env messageId model events)) ∧
   (Client.readAll (bridgeStream sseEnv env messageId model events)).stopReason =
    some (stopReasonOf (Client.readAll (bridgeStream sseEnv env messageId model events)).blocks):=by
 have hgoing:Going (CursorSseFramer.new messageId model) :=
  ⟨create_framed false messageId model,rfl,rfl⟩
 obtain ⟨hended,body,usage,hstop⟩:=hgoing.finished sseEnv _ (startBridge_ends env events)
 constructor
 · exact follows_all _ hended.wellFormed ⟨rfl,rfl⟩
 · have htool:=toolStart_read (bridgeStream sseEnv env messageId model events) {}
   have hreason:(Client.readAll (bridgeStream sseEnv env messageId model events)).stopReason =
     some (if (bridgeStream sseEnv env messageId model events).any toolStart then "tool_use"
      else "end_turn"):=by
    have hoverall:bridgeStream sseEnv env messageId model events=body++[.messageDelta
      (some (if (bridgeStream sseEnv env messageId model events).any toolStart then "tool_use"
       else "end_turn")) usage,.messageStop] := hstop
    generalize (if (bridgeStream sseEnv env messageId model events).any toolStart then "tool_use"
     else "end_turn")=reason at *
    unfold Client.readAll
    rw [hoverall,List.foldl_append]
    rfl
   rw [hreason]
   unfold stopReasonOf
   refine congrArg some (if_congr ?_ rfl rfl)
   rw [Client.readAll,htool]
   exact ⟨Or.inr,(Or.resolve_left · (nofun))⟩

def stripSandBridgeMessageStart : List SseEvent → List SseEvent
 | []=>[]
 | .messageStart _ _ _::events=>events
 | event::events=>event::stripSandBridgeMessageStart events

/-- A start with the estimate is sent at once, and later the events of the bridge without
their own start. -/
def sandToolBridgeStream (messageId model:String) (estimatedInput:ℕ) (stream:List SseEvent) : List SseEvent :=
 .messageStart messageId model ⟨max estimatedInput 1,0,0,0⟩ :: stripSandBridgeMessageStart stream

theorem read_usage (client:Client) (usage:SseUsage) (event:SseEvent) :
  ∃ later,({ client with usage := usage } : Client).read event =
   { client.read event with usage := later }:=by
 cases event with
 | messageStart messageId model counts=>exact ⟨counts,rfl⟩
 | messageDelta stopReason counts=>exact ⟨counts,rfl⟩
 | _=>exact ⟨usage,rfl⟩

theorem foldl_usage (events:List SseEvent) : ∀ (client:Client) (usage:SseUsage),
  ∃ later,events.foldl Client.read { client with usage := usage } =
   { events.foldl Client.read client with usage := later }:=by
 induction events with
 | nil=>exact fun _ usage=>⟨usage,rfl⟩
 | cons event events ih=>
  intro client usage
  obtain ⟨later,hread⟩:=read_usage client usage event
  rw [List.foldl_cons,List.foldl_cons,hread]
  exact ih _ later

theorem sandToolBridgeStream_read (sseEnv:SseEnv) (env:BridgeEnv) (messageId model:String)
  (estimatedInput:ℕ) (events:List CursorStreamEvent) :
  Client.readAll (sandToolBridgeStream messageId model estimatedInput
    (bridgeStream sseEnv env messageId model events)) =
   Client.readAll (bridgeStream sseEnv env messageId model events):=by
 have hgoing:Going (CursorSseFramer.new messageId model) :=
  ⟨create_framed false messageId model,rfl,rfl⟩
 obtain ⟨hended,body,usage,hstop⟩:=hgoing.finished sseEnv _ (startBridge_ends env events)
 have hwellFormed:=hended.wellFormed
 change bridgeStream sseEnv env messageId model events=_ at hstop
 change WellFormed (bridgeStream sseEnv env messageId model events) at hwellFormed
 rw [hstop] at hwellFormed ⊢
 cases body with
 | nil=>exact (nomatch hwellFormed)
 | cons first body=>
  cases first with
  | messageStart firstId firstModel counts=>
   change ((body++_).foldl Client.read { ({} : Client) with usage := _ }) =
    ((body++_).foldl Client.read { ({} : Client) with usage := counts })
   obtain ⟨early,hearly⟩:=foldl_usage body {} ⟨max estimatedInput 1,0,0,0⟩
   obtain ⟨late,hlate⟩:=foldl_usage body {} counts
   rw [List.foldl_append,List.foldl_append,hearly,hlate]
   rfl
  | _=>exact (nomatch hwellFormed)

def streamedAnswer (sseEnv:SseEnv) (env:BridgeEnv) (messageId model:String)
  (estimatedInput:ℕ) (events:List CursorStreamEvent) : Client :=
 Client.readAll (sandToolBridgeStream messageId model estimatedInput (bridgeStream sseEnv env messageId model events))

def collectedAnswer (sseEnv:SseEnv) (env:BridgeEnv) (fromStr:String → Option JsonValue)
  (messageId model:String) (estimatedInput:ℕ) (events:List CursorStreamEvent) : Except String Message :=
 anthropicJsonFromSse fromStr ((bridgeStream sseEnv env messageId model events).map .framed)
  messageId model estimatedInput

def ErrorsFail (fromStr:String → Option JsonValue) (messageId model:String) (estimatedInput:ℕ) : Prop :=
 ∀ parsed message,Parsed.error message∈parsed →
  ∃ text,anthropicJsonFromSse fromStr parsed messageId model estimatedInput=.error text

theorem errors_fail (fromStr:String → Option JsonValue) (messageId model:String)
  (estimatedInput:ℕ) : ErrorsFail fromStr messageId model estimatedInput:=by
 intro parsed message hmem
 obtain ⟨text,htext⟩:=readAll_error fromStr hmem (Reading.start estimatedInput)
 refine ⟨text,?_⟩
 unfold anthropicJsonFromSse
 rw [htext]

/-- The collected answer agrees with the streamed one exactly if the stream shows something,
its tools come last and have JSON inputs, its texts are parted and its usage is kept. -/
theorem collected_agrees_iff (sseEnv:SseEnv) (env:BridgeEnv)
    (fromStr:String → Option JsonValue) (messageId model:String) (estimatedInput:ℕ) (events:List CursorStreamEvent) :
    (Agrees fromStr (collectedAnswer sseEnv env fromStr messageId model estimatedInput events)
        (streamedAnswer sseEnv env messageId model estimatedInput events) ∧
      ErrorsFail fromStr messageId model estimatedInput) ↔
    answers (streamedAnswer sseEnv env messageId model estimatedInput events).blocks ∧
      (∀ block∈(streamedAnswer sseEnv env messageId model estimatedInput events).blocks,block.Readable fromStr) ∧
      Parted false (streamedAnswer sseEnv env messageId model estimatedInput events).blocks ∧
      ToolsLast (streamedAnswer sseEnv env messageId model estimatedInput events).blocks ∧
      UsageKept estimatedInput (streamedAnswer sseEnv env messageId model estimatedInput events).usage:=by
  obtain ⟨hsettled,hreason⟩ :=
    bridgeStream_settled sseEnv env fromStr messageId model estimatedInput events
  have hiff:=agrees_iff_settled hsettled rfl messageId model
  unfold streamedAnswer collectedAnswer
  rw [sandToolBridgeStream_read,hiff]
  constructor
  · rintro ⟨⟨hanswers,hreadable,hparted,hlast,-,husage⟩,-⟩
    exact ⟨hanswers,hreadable,hparted,hlast,husage⟩
  · rintro ⟨hanswers,hreadable,hparted,hlast,husage⟩
    exact ⟨⟨hanswers,hreadable,hparted,hlast,hreason,husage⟩,errors_fail fromStr messageId model estimatedInput⟩

/-- Forty of a hundred input tokens are from the cache. -/
def cachedTurn : List CursorStreamEvent :=
 [.usage 100 5 40 0,.textDelta "hi",.end]

theorem cachedTurn_usage : (Client.readAll (bridgeStream MessageContent.stillEnv
  BridgePauses.anyToolEnv "msg_1" "auto" cachedTurn)).usage=⟨60,5,0,40⟩:=by
 decide +kernel

/-- The cached tokens are taken off once more. -/
theorem cached_tokens_lost :
    ¬Agrees (fun _=>none)
      (collectedAnswer MessageContent.stillEnv BridgePauses.anyToolEnv (fun _=>none) "msg_1"
        "auto" 1 cachedTurn)
      (streamedAnswer MessageContent.stillEnv BridgePauses.anyToolEnv "msg_1" "auto" 1
        cachedTurn):=by
  intro hagrees
  unfold streamedAnswer collectedAnswer at hagrees
  rw [sandToolBridgeStream_read] at hagrees
  have hsettled:=(bridgeStream_settled MessageContent.stillEnv BridgePauses.anyToolEnv
    (fun _=>none) "msg_1" "auto" 1 cachedTurn).1
  have husage:=((agrees_iff_settled hsettled rfl "msg_1" "auto").mp hagrees).2.2.2.2.2
  rw [cachedTurn_usage] at husage
  revert husage
  unfold UsageKept
  decide

end CursorProxy.SandCollectedStreams
