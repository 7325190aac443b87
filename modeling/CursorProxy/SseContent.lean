import CursorProxy.CompactionText
import CursorProxy.SseWellFormed

namespace CursorProxy.SseContent
open BlockLanes CautiousScan CompactionText SandModel XmlElements SseFramer CursorSseFramer SseWellFormed

def addDelta : ContentDelta → Block → Block
 | .thinkingDelta more, .thinking thinking signature=>.thinking (thinking++more) signature
 | .signatureDelta signature, .thinking thinking _=>.thinking thinking (some signature)
 | .textDelta more, .text text=>.text (text++more)
 | .inputJsonDelta more, .toolUse id name partialJson=>.toolUse id name (partialJson++more)
 | _,block=>block

def emptyBlock : ContentBlock → Block
 | .thinking=>.thinking [] none
 | .text=>.text []
 | .toolUse id name=>.toolUse id name ""

/-- In a well-formed stream a delta belongs to the block that was opened last. -/
def rebuild (blocks:List Block) : SseEvent → List Block
 | .contentBlockStart _ contentBlock=>blocks++[emptyBlock contentBlock]
 | .contentBlockDelta _ delta=>blocks.modifyLast (addDelta delta)
 | _=>blocks

def reconstruct (events:List SseEvent) : List Block := events.foldl rebuild []

theorem reconstruct_write (events:List SseEvent) (event:SseEvent) :
 reconstruct (events++[event])=rebuild (reconstruct events) event:=by
 unfold reconstruct
 rw [List.foldl_append]
 rfl

structure Content where
 blocks : List Block
 thinkingOpen : Bool
 textOpen : Bool
 finalized : Bool
 compactionMode : Bool
 seenText : Bool
 fallback : Text
 artifact : LeadingThinkingArtifactState
 buffer : Text

def content (framer:CursorSseFramer) : Content where
 blocks := reconstruct framer.output
 thinkingOpen := framer.state.thinkingOpen
 textOpen := framer.state.textOpen
 finalized := framer.state.finalized
 compactionMode := framer.state.compactionMode
 seenText := framer.state.compactionSeenText
 fallback := framer.state.compactionThinkingFallback
 artifact := framer.state.leadingThinkingArtifact
 buffer := framer.state.leadingThinkingBuffer

namespace Content

def openThinking (seen:Content) : Content :=
 if seen.thinkingOpen then seen
 else { seen with
  blocks := seen.blocks++[.thinking [] none],thinkingOpen := true,textOpen := false }

def openText (seen:Content) : Content :=
 if seen.textOpen then seen
 else { seen with blocks := seen.blocks++[.text []],textOpen := true,thinkingOpen := false }

def delta (seen:Content) (delta:ContentDelta) : Content :=
 { seen with blocks := seen.blocks.modifyLast (addDelta delta) }

end Content

variable {env:SseEnv} {framer:CursorSseFramer}

theorem content_write (framer:CursorSseFramer) (event:SseEvent) :
 content (framer.writeSseEvent event) = { content framer with blocks := rebuild (content framer).blocks event }:=by
 unfold content writeSseEvent
 rw [reconstruct_write]

theorem content_ensureStart (env:SseEnv) (framer:CursorSseFramer) :
 content (framer.ensureStart env)=content framer:=by
 unfold ensureStart
 split
 · rfl
 · unfold content noteProgress writeSseEvent
   dsimp only
   rw [reconstruct_write]
   rfl

theorem content_closeThinking (framer:CursorSseFramer) :
 content framer.closeThinking={ content framer with thinkingOpen := false }:=by
 unfold closeThinking
 split
 · unfold content writeSseEvent
   dsimp only
   rw [reconstruct_write]
   rfl
 · rename_i hopen
   unfold content
   rw [Bool.eq_false_iff.mpr hopen]

theorem content_closeText (framer:CursorSseFramer) :
 content framer.closeText={ content framer with textOpen := false }:=by
 unfold closeText
 split
 · unfold content writeSseEvent
   dsimp only
   rw [reconstruct_write]
   rfl
 · rename_i hopen
   unfold content
   rw [Bool.eq_false_iff.mpr hopen]

theorem content_openThinking (env:SseEnv) (h:framer.state.finalized=false) :
 content (framer.openThinking env).1=(content framer).openThinking:=by
 have hlive:¬framer.state.finalized=true:=by
  rw [h]
  exact Bool.false_ne_true
 unfold openThinking Content.openThinking
 rw [if_neg hlive]
 by_cases hthinking:framer.state.thinkingOpen=true
 · rw [if_pos hthinking]
   exact (if_pos hthinking).symm
 · have hclosed:content (if framer.state.textOpen then framer.closeText else framer) =
    { content framer with textOpen := false }:=by
    split
    · exact content_closeText framer
    · rename_i htext
      unfold content
      rw [Bool.eq_false_iff.mpr htext]
   have hready:=(content_ensureStart env _).trans hclosed
   have hidle:¬(content framer).thinkingOpen=true:=hthinking
   rw [if_neg hthinking,if_neg hidle]
   dsimp only
   generalize (if framer.state.textOpen then framer.closeText else framer).ensureStart env =
    ready at hready ⊢
   have hopened:content { ready with
    state.thinkingOpen := true
    state.thinkingIndex := ready.state.nextIndex
    state.nextIndex := ready.state.nextIndex+1 } = { content ready with thinkingOpen := true } := rfl
   rw [content_write,hopened,hready]
   rfl

theorem content_openText (env:SseEnv) (h:framer.state.finalized=false) :
 content (framer.openText env).1=(content framer).openText:=by
 have hlive:¬framer.state.finalized=true:=by
  rw [h]
  exact Bool.false_ne_true
 unfold openText Content.openText
 rw [if_neg hlive]
 by_cases htext:framer.state.textOpen=true
 · rw [if_pos htext]
   exact (if_pos htext).symm
 · have hclosed:content (if framer.state.thinkingOpen then framer.closeThinking else framer) =
    { content framer with thinkingOpen := false }:=by
    split
    · exact content_closeThinking framer
    · rename_i hthinking
      unfold content
      rw [Bool.eq_false_iff.mpr hthinking]
   have hready:=(content_ensureStart env _).trans hclosed
   have hidle:¬(content framer).textOpen=true:=htext
   rw [if_neg htext,if_neg hidle]
   dsimp only
   generalize (if framer.state.thinkingOpen then framer.closeThinking else framer).ensureStart
    env=ready at hready ⊢
   have hopened:content { ready with
    state.textOpen := true
    state.textIndex := ready.state.nextIndex
    state.nextIndex := ready.state.nextIndex+1 } = { content ready with textOpen := true } := rfl
   rw [content_write,hopened,hready]
   rfl

theorem content_noteGeneratedText (framer:CursorSseFramer) (text:Text) :
 content (framer.noteGeneratedText text)=content framer:=by
 unfold noteGeneratedText
 split <;> rfl

theorem content_maybeEmitUsageProgress (env:SseEnv) (force:Bool) (framer:CursorSseFramer) :
 content (framer.maybeEmitUsageProgress env force)=content framer:=by
 refine maybeEmitUsageProgress_kept content env force framer (fun _=>rfl) fun _ _ _ _ _ _=>?_
 unfold content noteProgress writeSseEvent
 dsimp only
 rw [reconstruct_write]
 rfl

theorem content_addOutputTokens (env:SseEnv) (framer:CursorSseFramer) (tokens:ℕ) :
 content (framer.addOutputTokens env tokens)=content framer:=by
 unfold addOutputTokens
 split
 · rfl
 · rw [content_maybeEmitUsageProgress]
   rfl

theorem content_recordUsage (env:SseEnv) (framer:CursorSseFramer) (inputTokens outputTokens
 cacheReadTokens cacheWriteTokens : ℕ) :
 content (framer.recordUsage env inputTokens outputTokens cacheReadTokens cacheWriteTokens) = content framer:=by
 unfold recordUsage
 split
 · rfl
 · split
   · exact content_addOutputTokens env framer outputTokens
   · dsimp only
     rw [content_maybeEmitUsageProgress]
     rfl

theorem content_emitTextDeltaRaw (h:framer.state.finalized=false) {text:Text}
 (htext:text≠[]) : content (framer.emitTextDeltaRaw env text) =
  (content framer).openText.delta (.textDelta text):=by
 have hempty:¬text.isEmpty=true:=fun hempty=>htext (List.isEmpty_iff.mp hempty)
 have hopened:=(openText_spec env framer).2.1
 have hcontent:=content_openText env h
 unfold emitTextDeltaRaw
 rw [if_neg hempty]
 rw [h] at hopened
 split
 · rename_i opened heq
   rw [heq] at hopened
   exact absurd hopened (by simp)
 · rename_i opened heq
   rw [heq] at hcontent
   have hseen:content { opened with state.seenTextDelta:=true }=content opened := rfl
   dsimp only at hcontent ⊢
   rw [content_maybeEmitUsageProgress,content_write,content_noteGeneratedText,hseen,hcontent]
   rfl

theorem content_emitThinkingDelta (h:framer.state.finalized=false)
 (hmode:framer.state.compactionMode=false) (text:Text) :
 content (framer.emitThinkingDelta env text) = (content framer).openThinking.delta (.thinkingDelta text):=by
 have hopened:=(openThinking_spec env framer).2.1
 have hcontent:=content_openThinking env h
 unfold emitThinkingDelta
 rw [if_neg (Bool.eq_false_iff.mp hmode)]
 rw [h] at hopened
 split
 · rename_i opened heq
   rw [heq] at hopened
   exact absurd hopened (by simp)
 · rename_i opened heq
   rw [heq] at hcontent
   dsimp only
   rw [content_write,content_noteGeneratedText]
   rw [hcontent]
   rfl

theorem content_emitThinkingSignature (h:framer.state.finalized=false)
 (hmode:framer.state.compactionMode=false) {signature:Text} (hsignature:signature≠[]) :
 content (framer.emitThinkingSignature env signature) =
  (content framer).openThinking.delta (.signatureDelta signature):=by
 have hempty:signature.isEmpty=false :=
  Bool.eq_false_iff.mpr fun hempty=>hsignature (List.isEmpty_iff.mp hempty)
 have hopened:=(openThinking_spec env framer).2.1
 have hcontent:=content_openThinking env h
 unfold emitThinkingSignature
 rw [if_neg (by rw [hmode,hempty]; exact Bool.false_ne_true)]
 rw [h] at hopened
 split
 · rename_i opened heq
   rw [heq] at hopened
   exact absurd hopened (by simp)
 · rename_i opened heq
   rw [heq] at hcontent
   rw [content_write,hcontent]
   rfl

theorem content_completeThinking (hmode:framer.state.compactionMode=false) :
 content framer.completeThinking={ content framer with thinkingOpen := false }:=by
 unfold completeThinking
 rw [if_neg (Bool.eq_false_iff.mp hmode)]
 exact content_closeThinking framer

theorem content_closeOpenBlocks (env:SseEnv) (framer:CursorSseFramer) :
 content (framer.closeOpenBlocks env) =
  { content (framer.flushDeferredText env) with thinkingOpen := false,textOpen := false }:=by
 unfold closeOpenBlocks
 rw [content_closeText,content_closeThinking]

theorem content_emitFinalMessage (env:SseEnv) (h:framer.state.finalized=false) (stopReason:String) :
 content (framer.emitFinalMessage env stopReason) =
  { content ((framer.ensureStart env).flushDeferredText env) with
    thinkingOpen := false,textOpen := false,finalized := true }:=by
 have hclosed:=content_closeOpenBlocks env (framer.ensureStart env)
 unfold emitFinalMessage
 rw [if_neg (Bool.eq_false_iff.mp h)]
 dsimp only
 generalize (framer.ensureStart env).closeOpenBlocks env=closed at hclosed ⊢
 have hended:∀ (ended:CursorSseFramer),content ended=content closed →
  content { ended.writeSseEvent .messageStop with state.finalized := true } =
   { content closed with finalized := true }:=by
  intro ended hsame
  rw [← hsame]
  have hstop:=content_write ended .messageStop
  exact congrArg (fun seen:Content=>{ seen with finalized := true }) hstop
 rw [hended _ (content_write closed _),hclosed]

def inThinking : Option Block → Bool
 | some (.thinking _ _)=>true
 | _=>false

def inText : Option Block → Bool
 | some (.text _)=>true
 | _=>false

/-- What a framer shows that holds the lane and runs in normal mode. -/
def viewOf (lane:Lane) : Content where
 blocks := lane.blocks
 thinkingOpen := inThinking lane.current
 textOpen := inText lane.current
 finalized := false
 compactionMode := false
 seenText := false
 fallback := []
 artifact := .disabled
 buffer := []

theorem view_thinking (lane:Lane) (delta:ContentDelta) (thought:Text)
 (signature:Option Text) (h:∀ before earlier,
  addDelta delta (Block.thinking before earlier) = Block.thinking (before++thought) (signature.or earlier)) :
 (viewOf lane).openThinking.delta delta=viewOf (lane.put (.thinking thought signature)):=by
 obtain ⟨closed,current⟩:=lane
 have hbegun:∀ front:List Block,
  (front++[Block.thinking [] none]).modifyLast (addDelta delta) = front++[.thinking thought signature]:=by
  intro front
  rw [List.modifyLast_concat,h,Option.or_none]
  rfl
 cases current with
 | none=>
  simp [viewOf,Content.openThinking,Content.delta,Lane.put,Lane.blocks,inThinking,inText,hbegun]
 | some current=>
  cases current with
  | thinking before earlier=>
   simp [viewOf,Content.openThinking,Content.delta,Lane.put,Lane.blocks,inThinking,inText,
    Block.join,List.modifyLast_concat,h]
  | text | toolUse=>
   simp [viewOf,Content.openThinking,Content.delta,Lane.put,Lane.blocks,inThinking,inText,
    Block.join,-List.append_assoc,hbegun]

theorem view_text (lane:Lane) (shown:Text) :
 (viewOf lane).openText.delta (.textDelta shown)=viewOf (lane.put (.text shown)):=by
 obtain ⟨closed,current⟩:=lane
 cases current with
 | none=>
  simp [viewOf,Content.openText,Content.delta,Lane.put,Lane.blocks,inThinking,inText,List.modifyLast_concat,addDelta]
 | some current=>
  cases current with
  | text before=>
   simp [viewOf,Content.openText,Content.delta,Lane.put,Lane.blocks,inThinking,inText,
    Block.join,List.modifyLast_concat,addDelta]
  | thinking | toolUse=>
   simp [viewOf,Content.openText,Content.delta,Lane.put,Lane.blocks,inThinking,inText,
    Block.join,-List.append_assoc,List.modifyLast_concat,addDelta]

theorem view_closeThinking (lane:Lane) : { viewOf lane with thinkingOpen := false }=viewOf lane.closeThinking:=by
 obtain ⟨closed,current⟩:=lane
 cases current with
 | none=>rfl
 | some current=>
  cases current with
  | thinking=>simp [viewOf,Lane.closeThinking,Lane.close,Lane.blocks,inThinking,inText]
  | text | toolUse=>rfl

/-- Events that neither end the answer nor call a tool. -/
def plain : CursorStreamEvent → Bool
 | .end | .nativeTool _ _ _=>false
 | _=>true

variable {lane:Lane} {event:CursorStreamEvent}

theorem normal_pushEvent (h:content framer=viewOf lane) (hevent:plain event=true) :
 content (CursorSseEncoder.pushEvent env framer event) = viewOf (streamStep lane (pieceOf event)):=by
 have hlive:framer.state.finalized=false:=congrArg Content.finalized h
 have hmode:framer.state.compactionMode=false:=congrArg Content.compactionMode h
 have hartifact:framer.state.leadingThinkingArtifact=.disabled:=congrArg Content.artifact h
 unfold CursorSseEncoder.pushEvent
 rw [if_neg (Bool.eq_false_iff.mp hlive)]
 cases event with
 | session=>exact h
 | thinkingDelta text=>
  dsimp only
  rw [content_emitThinkingDelta hlive hmode,h]
  exact view_thinking lane _ _ none fun _ _=>rfl
 | thinkingSignature signature=>
  dsimp only [pieceOf]
  by_cases hempty:signature.toList.isEmpty=true
  · have hkept:framer.emitThinkingSignature env signature.toList=framer :=
     if_pos (by rw [hempty,Bool.or_true])
    rw [hkept,if_pos hempty]
    exact h
  · rw [if_neg hempty,content_emitThinkingSignature hlive hmode (fun hnil=>hempty (List.isEmpty_iff.mpr hnil)),h]
    refine view_thinking lane _ [] (some signature.toList) fun before earlier=>?_
    rw [List.append_nil]
    rfl
 | thinkingCompleted=>
  dsimp only
  rw [content_completeThinking hmode,h]
  exact view_closeThinking lane
 | textDelta text=>
  dsimp only [pieceOf,streamStep]
  unfold emitTextDelta
  rw [if_neg (Bool.eq_false_iff.mp hmode),hlive,Bool.or_false]
  by_cases hempty:text.toList.isEmpty=true
  · rw [if_pos hempty,if_pos hempty]
    exact h
  · rw [if_neg hempty,if_neg hempty,hartifact]
    dsimp only
    rw [content_emitTextDeltaRaw hlive (fun hnil=>hempty (List.isEmpty_iff.mpr hnil)),h]
    exact view_text lane text.toList
 | nativeTool=>exact absurd hevent (by simp [plain])
 | usage=>exact (content_recordUsage env framer _ _ _ _).trans h
 | outputTokenDelta tokens=>exact (content_addOutputTokens env framer _).trans h
 | «end» => exact absurd hevent (by simp [plain])

theorem push_end (h:framer.state.finalized=false) :
 CursorSseEncoder.pushEvent env framer .end=framer.emitFinalMessage env "end_turn" :=
 if_neg (Bool.eq_false_iff.mp h)

theorem normal_flush (env:SseEnv) (h:content framer=viewOf lane) : framer.flushDeferredText env=framer:=by
 have hmode:framer.state.compactionMode=false:=congrArg Content.compactionMode h
 have hartifact:framer.state.leadingThinkingArtifact=.disabled:=congrArg Content.artifact h
 have hbuffer:framer.state.leadingThinkingBuffer=[]:=congrArg Content.buffer h
 unfold flushDeferredText drainLeadingThinkingArtifact
 rw [if_neg (Bool.eq_false_iff.mp hmode),hartifact]
 exact if_pos (by rw [hbuffer]; rfl)

theorem normal_emitFinalMessage (env:SseEnv) (h:content framer=viewOf lane) (stopReason:String) :
 (framer.emitFinalMessage env stopReason).state.finalized=true ∧
  reconstruct (framer.emitFinalMessage env stopReason).output=lane.blocks:=by
 have hlive:framer.state.finalized=false:=congrArg Content.finalized h
 have hstart:=(content_ensureStart env framer).trans h
 have hend:=content_emitFinalMessage env hlive stopReason
 rw [normal_flush env hstart,hstart] at hend
 exact ⟨congrArg Content.finalized hend,congrArg Content.blocks hend⟩

theorem normal_end (env:SseEnv) (h:content framer=viewOf lane) :
 (CursorSseEncoder.pushEvent env framer .end).state.finalized=true ∧
  reconstruct (CursorSseEncoder.pushEvent env framer .end).output=lane.blocks:=by
 rw [push_end (congrArg Content.finalized h)]
 exact normal_emitFinalMessage env h "end_turn"

/-- What a framer shows that has gathered this and runs in compaction mode. -/
def compactView (gathered:Gathered) : Content where
 blocks := if gathered.shown.isEmpty then [] else [.text gathered.shown]
 thinkingOpen := false
 textOpen := !gathered.shown.isEmpty
 finalized := false
 compactionMode := true
 seenText := gathered.seen
 fallback := gathered.fallback
 artifact := .disabled
 buffer := []

/-- Text has been seen as soon as there is some, and then the thinking is dropped. -/
def Told (gathered:Gathered) : Prop :=
 gathered.seen=!gathered.shown.isEmpty ∧ (gathered.seen=true → gathered.fallback=[])

variable {gathered:Gathered}

theorem told_gather (h:Told gathered) (piece:Piece) : Told (streamGather gathered piece):=by
 cases piece with
 | text text=>
  unfold streamGather
  dsimp only
  split
  · exact h
  · rename_i htext
    have hfilled:(gathered.shown++text).isEmpty=false:=by
     refine Bool.eq_false_iff.mpr fun hempty=>htext (List.isEmpty_iff.mpr ?_)
     exact (List.append_eq_nil_iff.mp (List.isEmpty_iff.mp hempty)).2
    refine ⟨?_,fun _=>rfl⟩
    change true=!(gathered.shown++text).isEmpty
    rw [hfilled]
    rfl
 | thinking thought signature=>
  unfold streamGather Gathered.think
  dsimp only
  split
  · exact h
  · rename_i hseen
    exact ⟨h.1,fun hsaw=>absurd hsaw hseen⟩
 | completed | finish | other=>exact h

theorem compactView_text (gathered:Gathered) {text:Text} (htext:text≠[]) :
 ({ compactView gathered with seenText := true,fallback := [] } : Content).openText.delta
  (.textDelta text)=compactView (gathered.say text):=by
 obtain ⟨shown,fallback,seen⟩:=gathered
 cases shown with
 | nil=>
  cases text with
  | nil=>exact absurd rfl htext
  | cons=>rfl
 | cons char shown=>
  simp [compactView,Content.openText,Content.delta,Gathered.say,List.modifyLast,addDelta,List.modifyLast.go]

theorem compact_pushEvent (htold:Told gathered) (h:content framer=compactView gathered) (hevent:plain event=true) :
 content (CursorSseEncoder.pushEvent env framer event) = compactView (streamGather gathered (pieceOf event)):=by
 have hlive:framer.state.finalized=false:=congrArg Content.finalized h
 have hmode:framer.state.compactionMode=true:=congrArg Content.compactionMode h
 have hseen:framer.state.compactionSeenText=gathered.seen:=congrArg Content.seenText h
 unfold CursorSseEncoder.pushEvent
 rw [if_neg (Bool.eq_false_iff.mp hlive)]
 cases event with
 | session=>exact h
 | thinkingDelta text=>
  dsimp only [pieceOf,streamGather]
  unfold emitThinkingDelta Gathered.think
  rw [if_pos hmode,hseen,hlive]
  obtain ⟨shown,fallback,seen⟩:=gathered
  cases seen with
  | true=>exact h
  | false=>
   change ({ content framer with
    fallback := (content framer).fallback++text.toList } : Content)=_
   rw [h]
   rfl
 | thinkingSignature signature=>
  have hkept:framer.emitThinkingSignature env signature.toList=framer :=
   if_pos (by rw [hmode]; rfl)
  have hsame:streamGather gathered (pieceOf (.thinkingSignature signature))=gathered:=by
   dsimp only [pieceOf]
   split
   · rfl
   · simp [streamGather,Gathered.think]
  dsimp only
  rw [hkept,hsame]
  exact h
 | thinkingCompleted=>
  have hkept:framer.completeThinking=framer:=if_pos hmode
  dsimp only
  rw [hkept]
  exact h
 | textDelta text=>
  dsimp only [pieceOf,streamGather]
  unfold emitTextDelta
  rw [if_pos hmode,hlive,Bool.or_false,hseen]
  by_cases hempty:text.toList.isEmpty=true
  · rw [if_pos hempty,if_pos hempty]
    exact h
  · have htext:text.toList≠[]:=fun hnil=>hempty (List.isEmpty_iff.mpr hnil)
    have hview:=compactView_text gathered htext
    rw [if_neg hempty,if_neg hempty]
    split
    · rename_i hsaw
      have hsame:compactView gathered = { compactView gathered with seenText := true,fallback := [] }:=by
       unfold compactView
       rw [hsaw,htold.2 hsaw]
      rw [content_emitTextDeltaRaw hlive htext,h,hsame]
      exact hview
    · have hready:content { framer with
       state.compactionSeenText := true
       state.compactionThinkingFallback := [] } =
        { compactView gathered with seenText := true,fallback := [] }:=by
       rw [← h]
       rfl
      refine (content_emitTextDeltaRaw ?_ htext).trans ?_
      · exact hlive
      · rw [hready]
        exact hview
 | nativeTool=>exact absurd hevent (by simp [plain])
 | usage=>exact (content_recordUsage env framer _ _ _ _).trans h
 | outputTokenDelta tokens=>exact (content_addOutputTokens env framer _).trans h
 | «end» => exact absurd hevent (by simp [plain])

theorem compact_end (env:SseEnv) (htold:Told gathered) (h:content framer=compactView gathered) :
 (CursorSseEncoder.pushEvent env framer .end).state.finalized=true ∧
  reconstruct (CursorSseEncoder.pushEvent env framer .end).output =
   [Block.text gathered.answer].filter Block.full:=by
 have hlive:framer.state.finalized=false:=congrArg Content.finalized h
 have hstart:=(content_ensureStart env framer).trans h
 have hend:=content_emitFinalMessage env hlive "end_turn"
 have hmode:(framer.ensureStart env).state.compactionMode=true :=
  congrArg Content.compactionMode hstart
 have hseen:(framer.ensureStart env).state.compactionSeenText=gathered.seen :=
  congrArg Content.seenText hstart
 have hfallback:(framer.ensureStart env).state.compactionThinkingFallback =
  gathered.fallback := congrArg Content.fallback hstart
 have hlive':(framer.ensureStart env).state.finalized=false :=
  congrArg Content.finalized hstart
 rw [push_end hlive]
 refine ⟨congrArg Content.finalized hend,(congrArg Content.blocks hend).trans ?_⟩
 change (content ((framer.ensureStart env).flushDeferredText env)).blocks=_
 generalize framer.ensureStart env=ready at hstart hmode hseen hfallback hlive' ⊢
 obtain ⟨hsaw,hdropped⟩:=htold
 obtain ⟨shown,fallback,seen⟩:=gathered
 dsimp only at hsaw hdropped hseen hfallback
 have hkept:∀ fallback:Text,content { ready with
  state.compactionThinkingFallback := fallback } =
   { compactView ⟨shown,ready.state.compactionThinkingFallback,seen⟩ with
     fallback := fallback }:=by
  intro fallback
  rw [hfallback,← hstart]
  rfl
 unfold flushDeferredText
 rw [if_pos hmode,hseen,hfallback]
 cases shown with
 | cons char shown=>
  subst hsaw
  exact congrArg Content.blocks (hkept [])
 | nil=>
  subst hsaw
  cases fallback with
  | nil=>exact congrArg Content.blocks (hkept [])
  | cons char fallback=>
   refine (congrArg Content.blocks (content_emitTextDeltaRaw ?_ (List.cons_ne_nil _ _))).trans ?_
   · exact hlive'
   · rw [hkept []]
     rfl

def pushEvents (env:SseEnv) (encoder:CursorSseEncoder) (events:List CursorStreamEvent) :
 CursorSseEncoder := events.foldl (CursorSseEncoder.pushEvent env) encoder

theorem pushEvents_finalized (h:framer.state.finalized=true)
 (events:List CursorStreamEvent) : pushEvents env framer events=framer:=by
 induction events with
 | nil=>rfl
 | cons event events ih=>
  have hpush:CursorSseEncoder.pushEvent env framer event=framer:=if_pos h
  unfold pushEvents at ih ⊢
  rw [List.foldl_cons,hpush,ih]

def toolFree (events:List CursorStreamEvent) : Prop :=
 ∀ event∈events,∀ toolUseId name input,event ≠ .nativeTool toolUseId name input

theorem plain_or_end (h:∀ toolUseId name input,event ≠ .nativeTool toolUseId name input) :
 event=.end ∨ plain event=true ∧ pieceOf event ≠ .finish:=by
 cases event with
 | «end» => exact .inl rfl
 | nativeTool toolUseId name input=>exact absurd rfl (h toolUseId name input)
 | thinkingSignature signature=>
  refine .inr ⟨rfl,?_⟩
  dsimp only [pieceOf]
  split <;> simp
 | _=>exact .inr ⟨rfl,by simp [pieceOf]⟩

theorem normal_pushEvents (h:content framer=viewOf lane) {events:List CursorStreamEvent} (htools:toolFree events) :
 reconstruct (pushEvents env framer events).output = streamBlocks lane (events.map pieceOf):=by
 induction events generalizing framer lane with
 | nil=>exact congrArg Content.blocks h
 | cons event events ih=>
  obtain ⟨hevent,hrest⟩:=List.forall_mem_cons.mp htools
  change reconstruct (pushEvents env (CursorSseEncoder.pushEvent env framer event) events).output = _
  obtain rfl | ⟨hplain,hpiece⟩:=plain_or_end hevent
  · obtain ⟨hended,hblocks⟩:=normal_end env h
    rw [pushEvents_finalized hended,hblocks]
    rfl
  · rw [List.map_cons,streamBlocks_step lane _ hpiece]
    exact ih (normal_pushEvent h hplain) hrest

theorem streamText_step (gathered:Gathered) {piece:Piece} (pieces:List Piece) (h:piece ≠ .finish) :
 streamText gathered (piece::pieces)=streamText (streamGather gathered piece) pieces:=by
 cases piece with
 | finish=>exact absurd rfl h
 | _=>rfl

theorem compact_pushEvents (env:SseEnv) (htold:Told gathered)
 (h:content framer=compactView gathered) {events:List CursorStreamEvent}
 (htools:toolFree events) (hend:.end∈events) :
 reconstruct (pushEvents env framer events).output =
  [Block.text (streamText gathered (events.map pieceOf))].filter Block.full:=by
 induction events generalizing framer gathered with
 | nil=>exact absurd hend (by simp)
 | cons event events ih=>
  obtain ⟨hevent,hrest⟩:=List.forall_mem_cons.mp htools
  change reconstruct (pushEvents env (CursorSseEncoder.pushEvent env framer event) events).output = _
  obtain rfl | ⟨hplain,hpiece⟩:=plain_or_end hevent
  · obtain ⟨hended,hblocks⟩:=compact_end env htold h
    rw [pushEvents_finalized hended,hblocks]
    rfl
  · have hlater : .end∈events:=by
     refine (List.mem_cons.mp hend).resolve_left ?_
     rintro rfl
     exact absurd hplain (by simp [plain])
    rw [List.map_cons,streamText_step gathered _ hpiece]
    exact ih (told_gather htold _) (compact_pushEvent htold h hplain) hrest hlater

end CursorProxy.SseContent
