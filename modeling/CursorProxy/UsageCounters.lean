import CursorProxy.MessageContent

namespace CursorProxy.UsageCounters
open SandModel XmlElements SseFramer CursorSseFramer SseContent SseWellFormed

structure Counters where
 input : ℕ
 output : ℕ
 cacheRead : ℕ
 cacheWrite : ℕ
 finalized : Bool
 deriving DecidableEq

def counters (framer:CursorSseFramer) : Counters where
 input := framer.state.usageInputTokens
 output := framer.state.usageOutputTokens
 cacheRead := framer.state.usageCacheReadTokens
 cacheWrite := framer.state.usageCacheWriteTokens
 finalized := framer.state.finalized

variable {env:SseEnv} {framer:CursorSseFramer}

theorem counters_ensureStart (env:SseEnv) (framer:CursorSseFramer) :
 counters (framer.ensureStart env)=counters framer:=by
 unfold ensureStart
 split <;> rfl

theorem counters_closeThinking (framer:CursorSseFramer) : counters framer.closeThinking=counters framer:=by
 unfold closeThinking
 split <;> rfl

theorem counters_closeText (framer:CursorSseFramer) : counters framer.closeText=counters framer:=by
 unfold closeText
 split <;> rfl

theorem counters_openThinking (env:SseEnv) (framer:CursorSseFramer) :
 counters (framer.openThinking env).1=counters framer:=by
 unfold openThinking
 split
 · rfl
 · split
   · rfl
   · refine (counters_ensureStart env _).trans ?_
     split
     · exact counters_closeText framer
     · rfl

theorem counters_openText (env:SseEnv) (framer:CursorSseFramer) : counters (framer.openText env).1=counters framer:=by
 unfold openText
 split
 · rfl
 · split
   · rfl
   · refine (counters_ensureStart env _).trans ?_
     split
     · exact counters_closeThinking framer
     · rfl

theorem counters_noteGeneratedText (framer:CursorSseFramer) (text:Text) :
 counters (framer.noteGeneratedText text)=counters framer:=by
 unfold noteGeneratedText
 split <;> rfl

theorem counters_maybeEmitUsageProgress (env:SseEnv) (force:Bool) (framer:CursorSseFramer) :
 counters (framer.maybeEmitUsageProgress env force)=counters framer :=
 maybeEmitUsageProgress_kept counters env force framer (fun _=>rfl) fun _ _ _ _ _ _=>rfl

theorem counters_emitTextDeltaRaw (env:SseEnv) (framer:CursorSseFramer) (text:Text) :
 counters (framer.emitTextDeltaRaw env text)=counters framer:=by
 have hopened:=counters_openText env framer
 unfold emitTextDeltaRaw
 split
 · rfl
 · split
   · rename_i opened heq
     rw [heq] at hopened
     exact hopened
   · rename_i opened heq
     rw [heq] at hopened
     refine (counters_maybeEmitUsageProgress env false _).trans ?_
     exact (counters_noteGeneratedText _ text).trans hopened

theorem counters_emitThinkingDelta (env:SseEnv) (framer:CursorSseFramer) (text:Text) :
 counters (framer.emitThinkingDelta env text)=counters framer:=by
 have hopened:=counters_openThinking env framer
 unfold emitThinkingDelta
 split
 · split <;> rfl
 · split
   · rename_i opened heq
     rw [heq] at hopened
     exact hopened
   · rename_i opened heq
     rw [heq] at hopened
     exact (counters_noteGeneratedText opened text).trans hopened

theorem counters_emitThinkingSignature (env:SseEnv) (framer:CursorSseFramer)
 (signature:Text) : counters (framer.emitThinkingSignature env signature) = counters framer:=by
 have hopened:=counters_openThinking env framer
 unfold emitThinkingSignature
 split
 · rfl
 · split
   · rename_i opened heq
     rw [heq] at hopened
     exact hopened
   · rename_i opened heq
     rw [heq] at hopened
     exact hopened

theorem counters_completeThinking (framer:CursorSseFramer) : counters framer.completeThinking=counters framer:=by
 unfold completeThinking
 split
 · rfl
 · exact counters_closeThinking framer

theorem counters_drainPassthrough (env:SseEnv) (framer:CursorSseFramer) :
 counters (framer.drainPassthrough env)=counters framer:=by
 unfold drainPassthrough
 split
 · rfl
 · exact counters_emitTextDeltaRaw env _ _

theorem counters_drainBody (env:SseEnv) (flush:Bool) (framer:CursorSseFramer) :
 counters (framer.drainBody env flush)=counters framer:=by
 unfold drainBody
 dsimp only
 split
 · refine (counters_drainPassthrough env _).trans ?_
   rename_i closeAt hfind
   change counters (if 0<closeAt then _ else framer)=counters framer
   split
   · exact counters_emitThinkingDelta env framer _
   · rfl
 · split
   · exact counters_emitThinkingDelta env _ _
   · split
     · exact counters_emitThinkingDelta env _ _
     · rfl

theorem counters_drainCandidate (env:SseEnv) (flush:Bool) (framer:CursorSseFramer) :
 counters (framer.drainCandidate env flush)=counters framer:=by
 unfold drainCandidate
 dsimp only
 split
 · rfl
 · split
   · exact counters_drainPassthrough env _
   · split
     · exact counters_drainBody env flush _
     · split
       · rfl
       · exact counters_drainPassthrough env _

theorem counters_drainLeadingThinkingArtifact (env:SseEnv) (flush:Bool) (framer:CursorSseFramer) :
 counters (framer.drainLeadingThinkingArtifact env flush)=counters framer:=by
 unfold drainLeadingThinkingArtifact
 split
 · exact counters_drainPassthrough env framer
 · exact counters_drainPassthrough env framer
 · exact counters_drainCandidate env flush framer
 · exact counters_drainBody env flush framer

theorem counters_emitTextDelta (env:SseEnv) (framer:CursorSseFramer) (text:Text) :
 counters (framer.emitTextDelta env text)=counters framer:=by
 unfold emitTextDelta
 split
 · split
   · rfl
   · split
     · exact counters_emitTextDeltaRaw env framer text
     · exact counters_emitTextDeltaRaw env _ text
 · split
   · rfl
   · split
     · exact counters_drainLeadingThinkingArtifact env false _
     · exact counters_drainLeadingThinkingArtifact env false _
     · exact counters_emitTextDeltaRaw env framer text
     · exact counters_emitTextDeltaRaw env framer text

theorem counters_closeOpenBlocks (env:SseEnv) (framer:CursorSseFramer) :
 counters (framer.closeOpenBlocks env)=counters framer:=by
 unfold closeOpenBlocks
 rw [counters_closeText,counters_closeThinking]
 unfold flushDeferredText
 split
 · split
   · exact counters_emitTextDeltaRaw env _ _
   · rfl
 · exact counters_drainLeadingThinkingArtifact env true framer

theorem counters_emitToolUseBlock (env:SseEnv) (framer:CursorSseFramer) (toolUseId toolName
 partialJson : String) : counters (framer.emitToolUseBlock env toolUseId toolName partialJson) =
  counters framer:=by
 unfold emitToolUseBlock
 split
 · rfl
 · exact (counters_ensureStart env _).trans (counters_closeOpenBlocks env framer)

/-- What is left of the input without what the cache holds, if it holds no more than
the input. -/
def uncached (input cacheRead cacheWrite:ℕ) : ℕ :=
 let cached:=saturatingAdd cacheRead cacheWrite
 if 0 < input ∧ 0<cached ∧ cached ≤ input then input-cached else input

theorem normalize_eq (input output:ℕ) {cacheRead:ℕ} (h:cacheRead ≤ usizeMax)
 (cacheWrite:ℕ) : normalizeCursorUsageForAnthropic input output cacheRead cacheWrite =
  (uncached input cacheRead cacheWrite,output,cacheRead,cacheWrite):=by
 unfold normalizeCursorUsageForAnthropic uncached
 dsimp only
 split
 · rfl
 · rename_i hsplit
   rw [if_neg]
   rintro ⟨hinput,rfl,rfl⟩
   apply hsplit
   unfold saturatingAdd
   omega

def addTokens (seen:Counters) (tokens:ℕ) : Counters :=
 { seen with output := saturatingAdd seen.output tokens }

def outputOnly (input output cacheRead cacheWrite:ℕ) : Prop :=
 input=0 ∧ cacheRead=0 ∧ cacheWrite=0 ∧ 0<output

instance (input output cacheRead cacheWrite:ℕ) : Decidable (outputOnly input output cacheRead cacheWrite) :=
 inferInstanceAs (Decidable (_ ∧ _))

def count (seen:Counters) : CursorStreamEvent → Counters
 | .usage inputTokens outputTokens cacheReadTokens cacheWriteTokens=>
  if outputOnly inputTokens.toNat outputTokens.toNat cacheReadTokens.toNat
   cacheWriteTokens.toNat then addTokens seen outputTokens.toNat
  else { seen with
   input := uncached inputTokens.toNat cacheReadTokens.toNat cacheWriteTokens.toNat
   output := outputTokens.toNat
   cacheRead := cacheReadTokens.toNat
   cacheWrite := cacheWriteTokens.toNat }
 | .outputTokenDelta tokens=>addTokens seen tokens.toNat
 | _=>seen

theorem toNat_le (tokens:UInt64) : tokens.toNat ≤ usizeMax:=by
 have h:=tokens.toNat_lt
 unfold usizeMax
 omega

theorem counters_addOutputTokens (h:framer.state.finalized=false) {tokens:ℕ}
 (hbound:framer.state.usageOutputTokens ≤ usizeMax) :
 counters (framer.addOutputTokens env tokens)=addTokens (counters framer) tokens:=by
 unfold addOutputTokens
 rw [h,Bool.false_or]
 split
 · rename_i hzero
   obtain rfl:=beq_iff_eq.mp hzero
   have hsame:saturatingAdd framer.state.usageOutputTokens 0 = framer.state.usageOutputTokens:=by
    unfold saturatingAdd
    omega
   unfold addTokens counters
   rw [hsame]
 · rw [counters_maybeEmitUsageProgress]
   rfl

theorem counters_recordUsage (h:framer.state.finalized=false) (hbound:framer.state.usageOutputTokens ≤ usizeMax)
 (inputTokens outputTokens cacheReadTokens cacheWriteTokens:UInt64) :
 counters (framer.recordUsage env inputTokens.toNat outputTokens.toNat cacheReadTokens.toNat
  cacheWriteTokens.toNat) =
  count (counters framer) (.usage inputTokens outputTokens cacheReadTokens cacheWriteTokens):=by
 unfold recordUsage
 rw [if_neg (Bool.eq_false_iff.mp h),normalize_eq _ _ (toNat_le _)]
 dsimp only [count]
 split
 · rename_i honly
   rw [counters_addOutputTokens h hbound]
   exact (if_pos honly).symm
 · rename_i hfull
   rw [counters_maybeEmitUsageProgress]
   exact (if_neg hfull).symm

theorem count_bound {seen:Counters} (h:seen.output ≤ usizeMax) (event:CursorStreamEvent) :
 (count seen event).output ≤ usizeMax:=by
 have hadd:∀ tokens,(addTokens seen tokens).output ≤ usizeMax:=fun _=>Nat.min_le_right _ _
 cases event with
 | usage inputTokens outputTokens cacheReadTokens cacheWriteTokens=>
  dsimp only [count]
  split
  · exact hadd _
  · exact toNat_le outputTokens
 | outputTokenDelta tokens=>exact hadd _
 | _=>exact h

theorem count_finalized (seen:Counters) (event:CursorStreamEvent) : (count seen event).finalized=seen.finalized:=by
 cases event with
 | usage=>
  dsimp only [count]
  split <;> rfl
 | _=>rfl

theorem counters_pushEvent (env:SseEnv) (h:framer.state.finalized=false)
 (hbound:framer.state.usageOutputTokens ≤ usizeMax) {event:CursorStreamEvent} (hevent:plain event=true) :
 counters (CursorSseEncoder.pushEvent env framer event)=count (counters framer) event:=by
 unfold CursorSseEncoder.pushEvent
 rw [if_neg (Bool.eq_false_iff.mp h)]
 cases event with
 | session=>rfl
 | thinkingDelta text=>exact counters_emitThinkingDelta env framer _
 | thinkingSignature signature=>exact counters_emitThinkingSignature env framer _
 | thinkingCompleted=>exact counters_completeThinking framer
 | textDelta text=>exact counters_emitTextDelta env framer _
 | nativeTool=>exact absurd hevent (by simp [plain])
 | usage=>exact counters_recordUsage h hbound _ _ _ _
 | outputTokenDelta tokens=>exact counters_addOutputTokens h hbound
 | «end» => exact absurd hevent (by simp [plain])

def finalUsage (events:List SseEvent) : Option SseUsage :=
 events.foldl (fun found event=>
  match event with
  | .messageDelta (some _) usage=>some usage
  | _=>found) none

/-- The final message reports the counters, and the estimate if that is greater than
the output. -/
def Reports (finished:CursorSseFramer) (seen:Counters) : Prop :=
 finished.state.finalized=true ∧ finished.state.usageOutputTokens=seen.output ∧
  finalUsage finished.output=some ⟨max seen.input 1,
   max seen.output finished.state.usageOutputEstimate,seen.cacheWrite,seen.cacheRead⟩

theorem emitFinalMessage_reports (h:framer.state.finalized=false) (stopReason:String) :
 Reports (framer.emitFinalMessage env stopReason) (counters framer):=by
 have hclosed:counters ((framer.ensureStart env).closeOpenBlocks env)=counters framer :=
  (counters_closeOpenBlocks env _).trans (counters_ensureStart env framer)
 unfold emitFinalMessage
 rw [if_neg (Bool.eq_false_iff.mp h),← hclosed]
 refine ⟨rfl,rfl,?_⟩
 unfold finalUsage
 change (List.foldl _ none ((_++[_])++[_]))=_
 rw [List.foldl_append,List.foldl_append]
 rfl

theorem pushEvent_closing (env:SseEnv) (h:framer.state.finalized=false) {event:CursorStreamEvent}
 (hevent:plain event=false) : Reports (CursorSseEncoder.pushEvent env framer event) (counters framer):=by
 unfold CursorSseEncoder.pushEvent
 rw [if_neg (Bool.eq_false_iff.mp h)]
 cases event with
 | nativeTool toolUseId name input=>
  have hblock:=counters_emitToolUseBlock env framer toolUseId name ((env.toJson input).getD "\x7b\x7d")
  have hlive:=(congrArg Counters.finalized hblock).trans h
  rw [← hblock]
  exact emitFinalMessage_reports hlive "tool_use"
 | «end» => exact emitFinalMessage_reports h "end_turn"
 | _=>exact absurd hevent (by simp [plain])

theorem finalize_finalized (h:framer.state.finalized=true) : framer.finalize env=framer :=
 if_pos h

/-- What comes before the stream ends, at the end or at a tool call. -/
def live (events:List CursorStreamEvent) : List CursorStreamEvent := events.takeWhile plain

theorem stream_reports (env:SseEnv) (h:framer.state.finalized=false)
 (hbound:framer.state.usageOutputTokens ≤ usizeMax) (events:List CursorStreamEvent) :
 Reports ((pushEvents env framer events).finalize env) ((live events).foldl count (counters framer)):=by
 induction events generalizing framer with
 | nil=>
  change Reports (framer.finalize env) (counters framer)
  unfold finalize
  rw [if_neg (Bool.eq_false_iff.mp h)]
  exact emitFinalMessage_reports h "end_turn"
 | cons event events ih=>
  change Reports ((pushEvents env (CursorSseEncoder.pushEvent env framer event) events).finalize env) _
  unfold live
  cases hevent:plain event with
  | false=>
   have hended:=pushEvent_closing env h hevent
   rw [List.takeWhile_cons_of_neg (Bool.eq_false_iff.mp hevent),
    pushEvents_finalized hended.1,finalize_finalized hended.1]
   exact hended
  | true=>
   have hcounted:=counters_pushEvent env h hbound hevent
   have hlive:=(congrArg Counters.finalized hcounted).trans ((count_finalized _ event).trans h)
   have hmore:=(congrArg Counters.output hcounted).trans_le (count_bound hbound event)
   rw [List.takeWhile_cons_of_pos hevent,List.foldl_cons,← hcounted]
   exact ih hlive hmore

end CursorProxy.UsageCounters
