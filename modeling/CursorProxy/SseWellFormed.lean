import CursorProxy.SseFramer

namespace CursorProxy.SseWellFormed
open CautiousScan SandModel XmlElements SseFramer CursorSseFramer

inductive BlockKind where
 | thinking
 | text
 | toolUse
 deriving DecidableEq

def blockKind : ContentBlock → BlockKind
 | .thinking=>.thinking
 | .text=>.text
 | .toolUse .. => .toolUse

def deltaKind : ContentDelta → BlockKind
 | .thinkingDelta _ | .signatureDelta _=>.thinking
 | .textDelta _=>.text
 | .inputJsonDelta _=>.toolUse

/-- How far a reader of the stream has come. `next` is the index of the next block and
`seen` says that some text has arrived. -/
inductive Stage where
 | fresh
 | between (next:ℤ) (seen:Bool)
 | opened (index:ℤ) (kind:BlockKind) (seen:Bool)
 | stopping
 | stopped
 deriving DecidableEq

/-- The event that may come next: the start of the message, blocks one at a time with
ascending indices, progress after a text and outside of thinking, then the end. -/
def Stage.read : Stage → SseEvent → Option Stage
 | .fresh, .messageStart .. => some (.between 0 false)
 | .between next seen, .contentBlockStart index block=>
  if index=next then some (.opened index (blockKind block) seen) else none
 | .between next seen, .messageDelta none _=>if seen then some (.between next seen) else none
 | .between _ _, .messageDelta (some _) _=>some .stopping
 | .opened index kind seen, .contentBlockDelta place delta=>
  if place=index ∧ deltaKind delta=kind then
   some (.opened index kind (seen||deltaKind delta == .text))
  else none
 | .opened index kind seen, .messageDelta none _=>
  if seen ∧ kind ≠ .thinking then some (.opened index kind seen) else none
 | .opened index _ seen, .contentBlockStop place=>
  if place=index then some (.between (index+1) seen) else none
 | .stopping, .messageStop=>some .stopped
 | _,_=>none

def readAll (stage:Stage) (events:List SseEvent) : Option Stage := events.foldlM Stage.read stage

/-- Read from the start the stream is complete. -/
def WellFormed (events:List SseEvent) : Prop := readAll .fresh events=some .stopped

/-- The part of the state on which the order of the events depends. -/
structure Lifecycle where
 started : Bool
 finalized : Bool
 thinkingOpen : Bool
 textOpen : Bool
 nextIndex : ℤ
 thinkingIndex : ℤ
 textIndex : ℤ
 seen : Bool

def lifecycle (state:CursorSseState) : Lifecycle :=
 ⟨state.started,state.finalized,state.thinkingOpen,state.textOpen,state.nextIndex,
  state.thinkingIndex,state.textIndex,state.seenTextDelta⟩

def Lifecycle.stage (life:Lifecycle) : Stage :=
 if life.finalized then .stopped
 else if !life.started then .fresh
 else if life.thinkingOpen then .opened life.thinkingIndex .thinking life.seen
 else if life.textOpen then .opened life.textIndex .text life.seen
 else .between life.nextIndex life.seen

structure Lifecycle.Lined (life:Lifecycle) : Prop where
 fresh : life.started=false → life.finalized=false ∧ life.thinkingOpen=false ∧
  life.textOpen=false ∧ life.nextIndex=0 ∧ life.seen=false
 thinking : life.thinkingOpen=true → life.finalized=false ∧ life.textOpen=false ∧ life.nextIndex=life.thinkingIndex+1
 text : life.textOpen=true → life.finalized=false ∧ life.thinkingOpen=false ∧ life.nextIndex=life.textIndex+1

/-- A reader of the output is where the state says. -/
structure Framed (framer:CursorSseFramer) : Prop where
 reads : readAll .fresh framer.output=some (lifecycle framer.state).stage
 lined : (lifecycle framer.state).Lined

structure Keeps (framer next:CursorSseFramer) : Prop where
 framed : Framed framer → Framed next
 started : framer.state.started=true → next.state.started=true
 finalized : next.state.finalized=framer.state.finalized

theorem Keeps.refl (framer:CursorSseFramer) : Keeps framer framer := ⟨id,id,rfl⟩

theorem Keeps.trans {framer middle next:CursorSseFramer} (h:Keeps framer middle)
  (h':Keeps middle next) : Keeps framer next :=
 ⟨fun hf=>h'.framed (h.framed hf),fun hs=>h'.started (h.started hs),
  h'.finalized.trans h.finalized⟩

theorem Keeps.of_life {framer next:CursorSseFramer} (hout:next.output=framer.output)
  (hlife:lifecycle next.state=lifecycle framer.state) : Keeps framer next:=by
 refine ⟨fun h=>⟨?_,?_⟩,fun hs=>?_,congrArg Lifecycle.finalized hlife⟩
 · rw [hout,hlife]
   exact h.reads
 · rw [hlife]
   exact h.lined
 · rw [← hs]
   exact congrArg Lifecycle.started hlife

theorem Keeps.after {framer middle next:CursorSseFramer} (h:Keeps middle next) (hout:middle.output=framer.output)
  (hlife:lifecycle middle.state=lifecycle framer.state) : Keeps framer next :=
 (Keeps.of_life hout hlife).trans h

variable {env:SseEnv} {framer:CursorSseFramer}

theorem readAll_write (h:Framed framer) (next:Stage) {event:SseEvent}
  (hread:(lifecycle framer.state).stage.read event=some next) :
  readAll .fresh (framer.output++[event])=some next:=by
 have hreads:=h.reads
 unfold readAll at hreads ⊢
 rw [List.foldlM_append,hreads]
 simp [hread]

theorem started_of_open (h:Framed framer) (hopen:framer.state.thinkingOpen=true ∨ framer.state.textOpen=true) :
  framer.state.started=true:=by
 cases hstarted:framer.state.started with
 | true=>rfl
 | false=>
  obtain ⟨_,hthinking,htext,_⟩:=h.lined.fresh hstarted
  rcases hopen with hopen | hopen
  · exact absurd (hthinking.symm.trans hopen) (by simp)
  · exact absurd (htext.symm.trans hopen) (by simp)

theorem stage_thinking (h:Framed framer) (hopen:framer.state.thinkingOpen=true) :
  (lifecycle framer.state).stage = .opened framer.state.thinkingIndex .thinking framer.state.seenTextDelta:=by
 have hfinalized:framer.state.finalized=false:=(h.lined.thinking hopen).1
 simp [Lifecycle.stage,lifecycle,hfinalized,started_of_open h (.inl hopen),hopen]

theorem stage_text (h:Framed framer) (hopen:framer.state.textOpen=true) :
  (lifecycle framer.state).stage = .opened framer.state.textIndex .text framer.state.seenTextDelta:=by
 obtain ⟨hfinalized,hthinking,_⟩:=h.lined.text hopen
 change framer.state.finalized=false at hfinalized
 change framer.state.thinkingOpen=false at hthinking
 simp [Lifecycle.stage,lifecycle,hfinalized,started_of_open h (.inr hopen),hopen,hthinking]

theorem stage_between (hstarted:framer.state.started=true)
  (hfinalized:framer.state.finalized=false) (hthinking:framer.state.thinkingOpen=false)
  (htext:framer.state.textOpen=false) : (lifecycle framer.state).stage =
   .between framer.state.nextIndex framer.state.seenTextDelta:=by
 simp [Lifecycle.stage,lifecycle,hstarted,hfinalized,hthinking,htext]

theorem keeps_ensureStart (env:SseEnv) (framer:CursorSseFramer) : Keeps framer (framer.ensureStart env):=by
 unfold ensureStart
 split
 · exact .refl framer
 · rename_i hidle
   rw [Bool.or_eq_true,not_or,Bool.not_eq_true,Bool.not_eq_true] at hidle
   obtain ⟨hstarted,hfinalized⟩:=hidle
   refine ⟨fun h=>?_,fun _=>rfl,rfl⟩
   obtain ⟨_,hthinking,htext,hnext,hseen⟩:=h.lined.fresh hstarted
   change framer.state.thinkingOpen=false at hthinking
   change framer.state.textOpen=false at htext
   change framer.state.nextIndex=0 at hnext
   change framer.state.seenTextDelta=false at hseen
   have hfresh:(lifecycle framer.state).stage=.fresh:=by
    simp [Lifecycle.stage,lifecycle,hstarted,hfinalized]
   refine ⟨?_,⟨fun hnot=>absurd hnot (by simp [lifecycle,noteProgress,writeSseEvent]),
    fun hopen=>?_,fun hopen=>?_⟩⟩
   · refine (readAll_write h (.between 0 false) ?_).trans ?_
     · rw [hfresh]
       rfl
     · simp [Lifecycle.stage,lifecycle,noteProgress,writeSseEvent,hfinalized,hthinking,htext,hnext,hseen]
   · exact absurd (hthinking.symm.trans hopen) (by simp)
   · exact absurd (htext.symm.trans hopen) (by simp)

theorem ensureStart_started (env:SseEnv) (hfinalized:framer.state.finalized=false) :
  (framer.ensureStart env).state.started=true:=by
 unfold ensureStart
 split
 · rename_i hidle
   rw [hfinalized,Bool.or_false] at hidle
   exact hidle
 · rfl

theorem ensureStart_open (env:SseEnv) (framer:CursorSseFramer) :
  (framer.ensureStart env).state.thinkingOpen=framer.state.thinkingOpen ∧
   (framer.ensureStart env).state.textOpen=framer.state.textOpen:=by
 unfold ensureStart
 split <;> exact ⟨rfl,rfl⟩

theorem keeps_closeThinking (framer:CursorSseFramer) : Keeps framer framer.closeThinking:=by
 unfold closeThinking
 split
 · rename_i hopen
   refine ⟨fun h=>?_,id,rfl⟩
   obtain ⟨hfinalized,htext,hnext⟩:=h.lined.thinking hopen
   change framer.state.finalized=false at hfinalized
   change framer.state.textOpen=false at htext
   change framer.state.nextIndex=framer.state.thinkingIndex+1 at hnext
   have hstarted:=started_of_open h (.inl hopen)
   refine ⟨?_,⟨fun hnot=>?_,fun hnot=>?_,fun hother=>?_⟩⟩
   · refine (readAll_write h (.between (framer.state.thinkingIndex+1) framer.state.seenTextDelta) ?_).trans ?_
     · rw [stage_thinking h hopen]
       exact if_pos rfl
     · simp [Lifecycle.stage,lifecycle,writeSseEvent,hfinalized,hstarted,htext,hnext]
   · exact absurd (hstarted.symm.trans hnot) (by simp)
   · exact absurd hnot (by simp [lifecycle])
   · exact absurd (htext.symm.trans hother) (by simp)
 · exact .refl framer

theorem keeps_closeText (framer:CursorSseFramer) : Keeps framer framer.closeText:=by
 unfold closeText
 split
 · rename_i hopen
   refine ⟨fun h=>?_,id,rfl⟩
   obtain ⟨hfinalized,hthinking,hnext⟩:=h.lined.text hopen
   change framer.state.finalized=false at hfinalized
   change framer.state.thinkingOpen=false at hthinking
   change framer.state.nextIndex=framer.state.textIndex+1 at hnext
   have hstarted:=started_of_open h (.inr hopen)
   refine ⟨?_,⟨fun hnot=>?_,fun hother=>?_,fun hnot=>?_⟩⟩
   · refine (readAll_write h (.between (framer.state.textIndex+1) framer.state.seenTextDelta) ?_).trans ?_
     · rw [stage_text h hopen]
       exact if_pos rfl
     · simp [Lifecycle.stage,lifecycle,writeSseEvent,hfinalized,hstarted,hthinking,hnext]
   · exact absurd (hstarted.symm.trans hnot) (by simp)
   · exact absurd (hthinking.symm.trans hother) (by simp)
   · exact absurd hnot (by simp [lifecycle])
 · exact .refl framer

theorem closeThinking_closed (framer:CursorSseFramer) :
  framer.closeThinking.state.thinkingOpen=false ∧ framer.closeThinking.state.textOpen=framer.state.textOpen:=by
 unfold closeThinking
 split
 · exact ⟨rfl,rfl⟩
 · rename_i hopen
   exact ⟨Bool.eq_false_iff.mpr hopen,rfl⟩

theorem closeText_closed (framer:CursorSseFramer) :
  framer.closeText.state.textOpen=false ∧ framer.closeText.state.thinkingOpen=framer.state.thinkingOpen:=by
 unfold closeText
 split
 · exact ⟨rfl,rfl⟩
 · rename_i hopen
   exact ⟨Bool.eq_false_iff.mpr hopen,rfl⟩

theorem framed_open (h:Framed framer) (hstarted:framer.state.started=true)
  (hfinalized:framer.state.finalized=false) (hthinking:framer.state.thinkingOpen=false)
  (htext:framer.state.textOpen=false) (block:ContentBlock) :
  readAll .fresh (framer.output++[.contentBlockStart framer.state.nextIndex block]) =
   some (.opened framer.state.nextIndex (blockKind block) framer.state.seenTextDelta):=by
 refine readAll_write h _ ?_
 rw [stage_between hstarted hfinalized hthinking htext]
 exact if_pos rfl

/-- With no block open, the message is started and still has none. -/
theorem ensureStart_ready (env:SseEnv) {framer closed:CursorSseFramer} (hkeeps:Keeps framer closed)
  (hfinalized:framer.state.finalized=false) (hthinking:closed.state.thinkingOpen=false)
  (htext:closed.state.textOpen=false) : let ready := closed.ensureStart env
  Keeps framer ready ∧ ready.state.started=true ∧ ready.state.finalized=false ∧
   ready.state.thinkingOpen=false ∧ ready.state.textOpen=false:=by
 have hready:=hkeeps.trans (keeps_ensureStart env closed)
 obtain ⟨hsame,hsame'⟩:=ensureStart_open env closed
 exact ⟨hready,ensureStart_started env (hkeeps.finalized.trans hfinalized),
  hready.finalized.trans hfinalized,hsame.trans hthinking,hsame'.trans htext⟩

theorem openThinking_spec (env:SseEnv) (framer:CursorSseFramer) :
  Keeps framer (framer.openThinking env).1 ∧ (framer.openThinking env).2=!framer.state.finalized ∧
   (framer.state.finalized=false → (framer.openThinking env).1.state.thinkingOpen=true):=by
 unfold openThinking
 split
 · rename_i hfinalized
   refine ⟨.refl framer,by rw [hfinalized]; rfl,fun hnot=>?_⟩
   exact absurd (hfinalized.symm.trans hnot) (by simp)
 · rename_i hfinalized
   rw [Bool.not_eq_true] at hfinalized
   split
   · rename_i hopen
     exact ⟨.refl framer,by rw [hfinalized]; rfl,fun _=>hopen⟩
   · rename_i hthinking
     rw [Bool.not_eq_true] at hthinking
     refine ⟨?_,by rw [hfinalized]; rfl,fun _=>rfl⟩
     dsimp only
     have hclosed:Keeps framer (if framer.state.textOpen then framer.closeText else framer) ∧
       (if framer.state.textOpen then framer.closeText else framer).state.textOpen=false ∧
       (if framer.state.textOpen then framer.closeText else framer).state.thinkingOpen =
        false:=by
      split
      · obtain ⟨htext,hsame⟩:=closeText_closed framer
        exact ⟨keeps_closeText framer,htext,hsame.trans hthinking⟩
      · rename_i htext
        exact ⟨.refl framer,Bool.eq_false_iff.mpr htext,hthinking⟩
     generalize (if framer.state.textOpen then framer.closeText else framer)=closed at hclosed
     obtain ⟨hkeeps,htext,hthinking⟩:=hclosed
     obtain ⟨hready,hstarted,hlive,hsame,hsame'⟩:=
      ensureStart_ready env hkeeps hfinalized hthinking htext
     generalize closed.ensureStart env=ready at *
     refine ⟨fun h=>?_,fun _=>hstarted,hready.finalized⟩
     refine ⟨?_,⟨fun hnot=>?_,fun _=>⟨hlive,hsame',rfl⟩,fun hother=>?_⟩⟩
     · refine (framed_open (hready.framed h) hstarted hlive hsame hsame' .thinking).trans ?_
       simp [Lifecycle.stage,lifecycle,writeSseEvent,blockKind,hlive,hstarted]
     · exact absurd (hstarted.symm.trans hnot) (by simp)
     · exact absurd (hsame'.symm.trans hother) (by simp)

theorem openText_spec (env:SseEnv) (framer:CursorSseFramer) :
  Keeps framer (framer.openText env).1 ∧ (framer.openText env).2=!framer.state.finalized ∧
   (framer.state.finalized=false → (framer.openText env).1.state.textOpen=true):=by
 unfold openText
 split
 · rename_i hfinalized
   refine ⟨.refl framer,by rw [hfinalized]; rfl,fun hnot=>?_⟩
   exact absurd (hfinalized.symm.trans hnot) (by simp)
 · rename_i hfinalized
   rw [Bool.not_eq_true] at hfinalized
   split
   · rename_i hopen
     exact ⟨.refl framer,by rw [hfinalized]; rfl,fun _=>hopen⟩
   · rename_i htext
     rw [Bool.not_eq_true] at htext
     refine ⟨?_,by rw [hfinalized]; rfl,fun _=>rfl⟩
     dsimp only
     have hclosed : Keeps framer (if framer.state.thinkingOpen then framer.closeThinking else framer) ∧
       (if framer.state.thinkingOpen then framer.closeThinking else framer).state.thinkingOpen =
        false ∧
       (if framer.state.thinkingOpen then framer.closeThinking else framer).state.textOpen =
        false:=by
      split
      · obtain ⟨hthinking,hsame⟩:=closeThinking_closed framer
        exact ⟨keeps_closeThinking framer,hthinking,hsame.trans htext⟩
      · rename_i hthinking
        exact ⟨.refl framer,Bool.eq_false_iff.mpr hthinking,htext⟩
     generalize (if framer.state.thinkingOpen then framer.closeThinking else framer)=closed
      at hclosed
     obtain ⟨hkeeps,hthinking,htext⟩:=hclosed
     obtain ⟨hready,hstarted,hlive,hsame,hsame'⟩:=
      ensureStart_ready env hkeeps hfinalized hthinking htext
     generalize closed.ensureStart env=ready at *
     refine ⟨fun h=>?_,fun _=>hstarted,hready.finalized⟩
     refine ⟨?_,⟨fun hnot=>?_,fun hother=>?_,fun _=>⟨hlive,hsame,rfl⟩⟩⟩
     · refine (framed_open (hready.framed h) hstarted hlive hsame hsame' .text).trans ?_
       simp [Lifecycle.stage,lifecycle,writeSseEvent,blockKind,hlive,hstarted,hsame]
     · exact absurd (hstarted.symm.trans hnot) (by simp)
     · exact absurd (hsame.symm.trans hother) (by simp)

theorem keeps_noteGeneratedText (framer:CursorSseFramer) (text:Text) :
  Keeps framer (framer.noteGeneratedText text):=by
 unfold noteGeneratedText
 split
 · exact .refl framer
 · exact .of_life rfl rfl

theorem keeps_write {event:SseEvent} {next:CursorSseFramer}
  (hread:Framed framer → (lifecycle framer.state).stage.read event =
   some (lifecycle framer.state).stage) (hout:next.output=framer.output++[event])
  (hlife:lifecycle next.state=lifecycle framer.state) : Keeps framer next:=by
 refine ⟨fun h=>⟨?_,?_⟩,fun hs=>?_,congrArg Lifecycle.finalized hlife⟩
 · rw [hout,hlife]
   exact readAll_write h _ (hread h)
 · rw [hlife]
   exact h.lined
 · rw [← hs]
   exact congrArg Lifecycle.started hlife

/-- What neither a reading of the clock nor a report of usage changes. -/
theorem maybeEmitUsageProgress_kept {β:Type} (observe:CursorSseFramer → β) (env:SseEnv) (force:Bool)
  (framer:CursorSseFramer)
  (hlook:∀ framer:CursorSseFramer,observe { framer with reads := framer.reads+1 }=observe framer)
  (hwrite:∀ (framer:CursorSseFramer) (usage:SseUsage) (input output cacheRead cacheWrite:ℕ),
   observe ((framer.writeSseEvent (.messageDelta none usage)).noteProgress env input output
    cacheRead cacheWrite)=observe framer) :
  observe (framer.maybeEmitUsageProgress env force)=observe framer:=by
 unfold maybeEmitUsageProgress
 dsimp only
 split
 · rfl
 · split
   · rfl
   · split
     · rfl
     · split
       · exact hlook framer
       · exact (hwrite _ _ _ _ _ _).trans (hlook framer)

theorem keeps_maybeEmitUsageProgress (env:SseEnv) (force:Bool) (framer:CursorSseFramer) :
  Keeps framer (framer.maybeEmitUsageProgress env force):=by
 unfold maybeEmitUsageProgress
 split
 · exact .refl framer
 · rename_i hlive
   split
   · exact .refl framer
   · rename_i hready
     rw [Bool.or_eq_true,not_or,Bool.not_eq_true] at hlive hready
     obtain ⟨hfinalized,hstarted⟩:=hlive
     obtain ⟨hthinking,hseen⟩:=hready
     rw [Bool.not_eq_true',Bool.not_eq_false] at hstarted hseen
     dsimp only
     split
     · exact .refl framer
     · split
       · exact .of_life rfl rfl
       · refine keeps_write (fun h=>?_) rfl rfl
         cases htext:framer.state.textOpen with
         | true=>
          rw [stage_text h htext,hseen]
          rfl
         | false=>
          rw [stage_between hstarted hfinalized hthinking htext,hseen]
          rfl

theorem keeps_addOutputTokens (env:SseEnv) (framer:CursorSseFramer) (tokens:ℕ) :
  Keeps framer (framer.addOutputTokens env tokens):=by
 unfold addOutputTokens
 split
 · exact .refl framer
 · exact .after (keeps_maybeEmitUsageProgress env false _) rfl rfl

theorem keeps_recordUsage (env:SseEnv) (framer:CursorSseFramer) (inputTokens outputTokens
  cacheReadTokens cacheWriteTokens : ℕ) :
  Keeps framer (framer.recordUsage env inputTokens outputTokens cacheReadTokens cacheWriteTokens):=by
 unfold recordUsage
 split
 · exact .refl framer
 · split
   · exact keeps_addOutputTokens env framer outputTokens
   · exact .after (keeps_maybeEmitUsageProgress env true _) rfl rfl

theorem keeps_seedEstimatedInputTokens (framer:CursorSseFramer) (tokens:ℕ) :
  Keeps framer (framer.seedEstimatedInputTokens tokens):=by
 unfold seedEstimatedInputTokens
 split
 · exact .refl framer
 · split
   · exact .of_life rfl rfl
   · exact .refl framer

theorem keeps_thinking (hopen:framer.state.thinkingOpen=true) {delta:ContentDelta} (hkind:deltaKind delta=.thinking) :
  Keeps framer (framer.writeSseEvent (.contentBlockDelta framer.state.thinkingIndex delta)):=by
 refine keeps_write (fun h=>?_) rfl rfl
 rw [stage_thinking h hopen]
 simp [Stage.read,hkind]

theorem keeps_text (hopen:framer.state.textOpen=true) (text:Text) :
  Keeps framer (({ framer with state.seenTextDelta := true }).writeSseEvent
   (.contentBlockDelta framer.state.textIndex (.textDelta text))):=by
 refine ⟨fun h=>?_,id,rfl⟩
 have hstarted:=started_of_open h (.inr hopen)
 obtain ⟨hfinalized,hthinking,hnext⟩:=h.lined.text hopen
 change framer.state.finalized=false at hfinalized
 change framer.state.thinkingOpen=false at hthinking
 refine ⟨?_,⟨fun hnot=>?_,fun hother=>?_,fun _=>⟨hfinalized,hthinking,hnext⟩⟩⟩
 · refine (readAll_write h (.opened framer.state.textIndex .text true) ?_).trans ?_
   · rw [stage_text h hopen]
     simp [Stage.read,deltaKind]
   · simp [Lifecycle.stage,lifecycle,writeSseEvent,hfinalized,hstarted,hthinking,hopen]
 · exact absurd (hstarted.symm.trans hnot) (by simp)
 · exact absurd (hthinking.symm.trans hother) (by simp)

theorem keeps_emitTextDeltaRaw (env:SseEnv) (framer:CursorSseFramer) (text:Text) :
  Keeps framer (framer.emitTextDeltaRaw env text):=by
 unfold emitTextDeltaRaw
 split
 · exact .refl framer
 · obtain ⟨hkeeps,hopened,htext⟩:=openText_spec env framer
   split
   · rename_i opened heq
     rw [heq] at hkeeps
     exact hkeeps
   · rename_i opened heq
     rw [heq] at hkeeps hopened htext
     rw [Bool.true_eq,Bool.not_eq_true'] at hopened
     dsimp only at hkeeps hopened htext ⊢
     refine hkeeps.trans (.trans ?_ (keeps_maybeEmitUsageProgress env false _))
     refine .trans (keeps_text (htext hopened) text) ?_
     unfold noteGeneratedText
     split
     · exact .refl _
     · exact .of_life rfl rfl

theorem keeps_emitThinkingDelta (env:SseEnv) (framer:CursorSseFramer) (text:Text) :
  Keeps framer (framer.emitThinkingDelta env text):=by
 unfold emitThinkingDelta
 split
 · split
   · exact .of_life rfl rfl
   · exact .refl framer
 · obtain ⟨hkeeps,hopened,hthinking⟩:=openThinking_spec env framer
   split
   · rename_i opened heq
     rw [heq] at hkeeps
     exact hkeeps
   · rename_i opened heq
     rw [heq] at hkeeps hopened hthinking
     rw [Bool.true_eq,Bool.not_eq_true'] at hopened
     refine hkeeps.trans (.trans (keeps_noteGeneratedText opened text) (keeps_thinking ?_ rfl))
     have hopen:=hthinking hopened
     unfold noteGeneratedText
     split <;> exact hopen

theorem keeps_emitThinkingSignature (env:SseEnv) (framer:CursorSseFramer) (signature:Text) :
  Keeps framer (framer.emitThinkingSignature env signature):=by
 unfold emitThinkingSignature
 split
 · exact .refl framer
 · obtain ⟨hkeeps,hopened,hthinking⟩:=openThinking_spec env framer
   split
   · rename_i opened heq
     rw [heq] at hkeeps
     exact hkeeps
   · rename_i opened heq
     rw [heq] at hkeeps hopened hthinking
     rw [Bool.true_eq,Bool.not_eq_true'] at hopened
     exact hkeeps.trans (keeps_thinking (hthinking hopened) rfl)

theorem keeps_completeThinking (framer:CursorSseFramer) : Keeps framer framer.completeThinking:=by
 unfold completeThinking
 split
 · exact .refl framer
 · exact keeps_closeThinking framer

theorem keeps_drainPassthrough (env:SseEnv) (framer:CursorSseFramer) : Keeps framer (framer.drainPassthrough env):=by
 unfold drainPassthrough
 split
 · exact .refl framer
 · exact .after (keeps_emitTextDeltaRaw env _ _) rfl rfl

theorem keeps_drainBody (env:SseEnv) (flush:Bool) (framer:CursorSseFramer) :
  Keeps framer (framer.drainBody env flush):=by
 unfold drainBody
 dsimp only
 split
 · rename_i closeAt _
   have hreasoned:Keeps framer (if 0<closeAt then framer.emitThinkingDelta env
     (framer.state.leadingThinkingBuffer.take closeAt) else framer):=by
    split
    · exact keeps_emitThinkingDelta env framer _
    · exact .refl framer
   exact hreasoned.trans (.after (keeps_drainPassthrough env _) rfl rfl)
 · split
   · exact .after (keeps_emitThinkingDelta env _ _) rfl rfl
   · split
     · exact .after (keeps_emitThinkingDelta env _ _) rfl rfl
     · exact .refl framer

theorem keeps_drainCandidate (env:SseEnv) (flush:Bool) (framer:CursorSseFramer) :
  Keeps framer (framer.drainCandidate env flush):=by
 unfold drainCandidate
 dsimp only
 split
 · exact .refl framer
 · split
   · exact .after (keeps_drainPassthrough env _) rfl rfl
   · split
     · exact .after (keeps_drainBody env flush _) rfl rfl
     · split
       · exact .refl framer
       · exact .after (keeps_drainPassthrough env _) rfl rfl

theorem keeps_drainLeadingThinkingArtifact (env:SseEnv) (flush:Bool)
  (framer:CursorSseFramer) : Keeps framer (framer.drainLeadingThinkingArtifact env flush):=by
 unfold drainLeadingThinkingArtifact
 split
 · exact keeps_drainPassthrough env framer
 · exact keeps_drainPassthrough env framer
 · exact keeps_drainCandidate env flush framer
 · exact keeps_drainBody env flush framer

theorem keeps_emitTextDelta (env:SseEnv) (framer:CursorSseFramer) (text:Text) :
  Keeps framer (framer.emitTextDelta env text):=by
 unfold emitTextDelta
 split
 · split
   · exact .refl framer
   · split
     · exact keeps_emitTextDeltaRaw env framer text
     · exact .after (keeps_emitTextDeltaRaw env _ text) rfl rfl
 · split
   · exact .refl framer
   · split
     · exact .after (keeps_drainLeadingThinkingArtifact env false _) rfl rfl
     · exact .after (keeps_drainLeadingThinkingArtifact env false _) rfl rfl
     · exact keeps_emitTextDeltaRaw env framer text
     · exact keeps_emitTextDeltaRaw env framer text

theorem keeps_flushDeferredText (env:SseEnv) (framer:CursorSseFramer) :
  Keeps framer (framer.flushDeferredText env):=by
 unfold flushDeferredText
 split
 · split
   · exact .after (keeps_emitTextDeltaRaw env _ _) rfl rfl
   · exact .of_life rfl rfl
 · exact keeps_drainLeadingThinkingArtifact env true framer

theorem keeps_closeOpenBlocks (env:SseEnv) (framer:CursorSseFramer) : Keeps framer (framer.closeOpenBlocks env) :=
 (keeps_flushDeferredText env framer).trans ((keeps_closeThinking _).trans (keeps_closeText _))

theorem closeOpenBlocks_closed (env:SseEnv) (framer:CursorSseFramer) :
  (framer.closeOpenBlocks env).state.thinkingOpen=false ∧ (framer.closeOpenBlocks env).state.textOpen=false:=by
 obtain ⟨htext,hsame⟩:=closeText_closed (framer.flushDeferredText env).closeThinking
 exact ⟨hsame.trans (closeThinking_closed _).1,htext⟩

theorem keeps_emitToolUseBlock (env:SseEnv) (framer:CursorSseFramer) (toolUseId toolName partialJson : String) :
  Keeps framer (framer.emitToolUseBlock env toolUseId toolName partialJson):=by
 unfold emitToolUseBlock
 split
 · exact .refl framer
 · rename_i hfinalized
   rw [Bool.not_eq_true] at hfinalized
   obtain ⟨hthinking,htext⟩:=closeOpenBlocks_closed env framer
   have hclosed:=keeps_closeOpenBlocks env framer
   have hready:=hclosed.trans (keeps_ensureStart env _)
   have hstarted:=ensureStart_started env (hclosed.finalized.trans hfinalized)
   obtain ⟨hsame,hsame'⟩:=ensureStart_open env (framer.closeOpenBlocks env)
   rw [hthinking] at hsame
   rw [htext] at hsame'
   dsimp only
   generalize (framer.closeOpenBlocks env).ensureStart env=ready at *
   have hlive:=hready.finalized.trans hfinalized
   refine ⟨fun h=>?_,fun _=>hstarted,hready.finalized⟩
   refine ⟨?_,⟨fun hnot=>?_,fun hother=>?_,fun hother=>?_⟩⟩
   · have hopen:=framed_open (hready.framed h) hstarted hlive hsame hsame' (.toolUse toolUseId toolName)
     have hnext:(lifecycle { ready.state with nextIndex:=ready.state.nextIndex+1 }).stage =
       .between (ready.state.nextIndex+1) ready.state.seenTextDelta:=by
      simp [Lifecycle.stage,lifecycle,hstarted,hlive,hsame,hsame']
     change readAll .fresh (((ready.output++[_])++[_])++[_])=some (lifecycle
      { ready.state with nextIndex := ready.state.nextIndex+1 }).stage
     unfold readAll at hopen ⊢
     rw [hnext,List.foldlM_append,List.foldlM_append,hopen]
     simp [Stage.read,blockKind,deltaKind]
   · exact absurd (hstarted.symm.trans hnot) (by simp)
   · exact absurd (hsame.symm.trans hother) (by simp)
   · exact absurd (hsame'.symm.trans hother) (by simp)

/-- The message is complete, and the framer is in a state in which it writes no more. -/
structure Ended (framer:CursorSseFramer) : Prop where
 framed : Framed framer
 finalized : framer.state.finalized=true

theorem Ended.wellFormed (h:Ended framer) : WellFormed framer.output:=by
 have hstage:(lifecycle framer.state).stage=.stopped:=if_pos h.finalized
 exact h.framed.reads.trans (congrArg some hstage)

theorem emitFinalMessage_ended (h:Framed framer) (stopReason:String) :
  Ended (framer.emitFinalMessage env stopReason):=by
 unfold emitFinalMessage
 split
 · rename_i hfinalized
   exact ⟨h,hfinalized⟩
 · rename_i hfinalized
   rw [Bool.not_eq_true] at hfinalized
   have hready:=keeps_ensureStart env framer
   have hclosed:=hready.trans (keeps_closeOpenBlocks env _)
   have hstarted:=(keeps_closeOpenBlocks env _).started (ensureStart_started env hfinalized)
   obtain ⟨hthinking,htext⟩:=closeOpenBlocks_closed env (framer.ensureStart env)
   dsimp only
   generalize (framer.ensureStart env).closeOpenBlocks env=closed at *
   have hlive:=hclosed.finalized.trans hfinalized
   have hreads:=(hclosed.framed h).reads
   rw [stage_between hstarted hlive hthinking htext] at hreads
   refine ⟨⟨?_,⟨fun hnot=>?_,fun hother=>?_,fun hother=>?_⟩⟩,rfl⟩
   · change readAll .fresh ((closed.output++[_])++[_])=some (lifecycle _).stage
     unfold readAll at hreads ⊢
     rw [List.foldlM_append,List.foldlM_append,hreads]
     simp [Stage.read,Lifecycle.stage,lifecycle]
   · exact absurd (hstarted.symm.trans hnot) (by simp)
   · exact absurd (hthinking.symm.trans hother) (by simp)
   · exact absurd (htext.symm.trans hother) (by simp)

/-- The calls that a user of the encoder can make. -/
inductive SseOp where
 | begin
 | pushEvent (event:CursorStreamEvent)
 | emitThinkingDelta (text:Text)
 | emitThinkingSignature (signature:Text)
 | completeThinking
 | emitTextDelta (text:Text)
 | recordUsage (inputTokens outputTokens cacheReadTokens cacheWriteTokens:ℕ)
 | addOutputTokens (tokens:ℕ)
 | seedEstimatedInputTokens (tokens:ℕ)
 | emitToolPause (toolUseId toolName partialJson:String)
 | emitToolBatch (tools:List (String×String×String))
 | finalize

def SseOp.apply (env:SseEnv) (encoder:CursorSseEncoder) : SseOp → CursorSseEncoder
 | .begin=>encoder.ensureStart env
 | .pushEvent event=>CursorSseEncoder.pushEvent env encoder event
 | .emitThinkingDelta text=>encoder.emitThinkingDelta env text
 | .emitThinkingSignature signature=>encoder.emitThinkingSignature env signature
 | .completeThinking=>encoder.completeThinking
 | .emitTextDelta text=>encoder.emitTextDelta env text
 | .recordUsage inputTokens outputTokens cacheReadTokens cacheWriteTokens=>
  encoder.recordUsage env inputTokens outputTokens cacheReadTokens cacheWriteTokens
 | .addOutputTokens tokens=>encoder.addOutputTokens env tokens
 | .seedEstimatedInputTokens tokens=>encoder.seedEstimatedInputTokens tokens
 | .emitToolPause toolUseId toolName partialJson=>
  encoder.emitToolPause env toolUseId toolName partialJson
 | .emitToolBatch tools=>CursorSseEncoder.emitToolBatch env encoder tools
 | .finalize=>encoder.finalize env

def applyAll (env:SseEnv) (encoder:CursorSseEncoder) (ops:List SseOp) : CursorSseEncoder :=
 ops.foldl (SseOp.apply env) encoder

def create (compaction:Bool) (messageId model:String) : CursorSseEncoder :=
 if compaction then newCompaction messageId model else new messageId model

theorem create_framed (compaction:Bool) (messageId model:String) : Framed (create compaction messageId model):=by
 have hidle:∀ state:CursorSseState,lifecycle state=lifecycle {} →
   readAll .fresh []=some (lifecycle state).stage ∧ (lifecycle state).Lined:=by
  intro state hlife
  rw [hlife]
  exact ⟨rfl,fun _=>⟨rfl,rfl,rfl,rfl,rfl⟩,fun hopen=>absurd hopen (by simp [lifecycle]),
   fun hopen=>absurd hopen (by simp [lifecycle])⟩
 cases compaction with
 | true=>exact ⟨(hidle _ rfl).1,(hidle _ rfl).2⟩
 | false=>exact ⟨(hidle _ rfl).1,(hidle _ rfl).2⟩

theorem emitToolPause_framed (h:Framed framer) (toolUseId toolName partialJson:String) :
  Framed (framer.emitToolPause env toolUseId toolName partialJson) :=
 (emitFinalMessage_ended ((keeps_emitToolUseBlock env framer toolUseId toolName
  partialJson).framed h) "tool_use").framed

theorem pushEvent_framed (h:Framed framer) (event:CursorStreamEvent) :
  Framed (CursorSseEncoder.pushEvent env framer event):=by
 unfold CursorSseEncoder.pushEvent
 split
 · exact h
 · cases event with
   | session=>exact h
   | thinkingDelta text=>exact (keeps_emitThinkingDelta env framer _).framed h
   | thinkingSignature signature=>exact (keeps_emitThinkingSignature env framer _).framed h
   | thinkingCompleted=>exact (keeps_completeThinking framer).framed h
   | textDelta text=>exact (keeps_emitTextDelta env framer _).framed h
   | nativeTool toolUseId name input=>exact emitToolPause_framed h _ _ _
   | usage=>exact (keeps_recordUsage env framer _ _ _ _).framed h
   | outputTokenDelta tokens=>exact (keeps_addOutputTokens env framer _).framed h
   | «end» => exact (emitFinalMessage_ended h "end_turn").framed

theorem emitToolBatch_framed (h:Framed framer) (tools:List (String×String×String)) :
  Framed (CursorSseEncoder.emitToolBatch env framer tools):=by
 refine (emitFinalMessage_ended ?_ "tool_use").framed
 induction tools generalizing framer with
 | nil=>exact h
 | cons tool tools ih=>exact ih ((keeps_emitToolUseBlock env framer _ _ _).framed h)

theorem finalize_ended (env:SseEnv) (h:Framed framer) : Ended (framer.finalize env):=by
 unfold finalize
 split
 · rename_i hfinalized
   exact ⟨h,hfinalized⟩
 · exact emitFinalMessage_ended h "end_turn"

theorem apply_framed (h:Framed framer) (op:SseOp) : Framed (op.apply env framer):=by
 cases op with
 | begin=>exact (keeps_ensureStart env framer).framed h
 | pushEvent event=>exact pushEvent_framed h event
 | emitThinkingDelta text=>exact (keeps_emitThinkingDelta env framer text).framed h
 | emitThinkingSignature signature=>
  exact (keeps_emitThinkingSignature env framer signature).framed h
 | completeThinking=>exact (keeps_completeThinking framer).framed h
 | emitTextDelta text=>exact (keeps_emitTextDelta env framer text).framed h
 | recordUsage=>exact (keeps_recordUsage env framer _ _ _ _).framed h
 | addOutputTokens tokens=>exact (keeps_addOutputTokens env framer tokens).framed h
 | seedEstimatedInputTokens tokens=>exact (keeps_seedEstimatedInputTokens framer tokens).framed h
 | emitToolPause=>exact emitToolPause_framed h _ _ _
 | emitToolBatch tools=>exact emitToolBatch_framed h tools
 | finalize=>exact (finalize_ended env h).framed

theorem applyAll_framed (env:SseEnv) (h:Framed framer) (ops:List SseOp) : Framed (applyAll env framer ops):=by
 induction ops generalizing framer with
 | nil=>exact h
 | cons op ops ih=>exact ih (apply_framed h op)

theorem open_silent (env:SseEnv) (h:framer.state.finalized=true) :
  framer.openThinking env=(framer,false) ∧ framer.openText env=(framer,false) :=
 ⟨if_pos h,if_pos h⟩

theorem apply_ended (h:Ended framer) (op:SseOp) : op.apply env framer=framer:=by
 have hfinalized:=h.finalized
 have hclosed:framer.state.thinkingOpen=false:=by
  cases hopen:framer.state.thinkingOpen with
  | false=>rfl
  | true=>exact absurd ((h.framed.lined.thinking hopen).1.symm.trans hfinalized) (by simp)
 have hsilent:=open_silent env hfinalized
 have hthinking:∀ text,framer.emitThinkingDelta env text=framer:=by
  intro text
  unfold emitThinkingDelta
  simp [hfinalized,hsilent.1]
 have hsignature:∀ signature,framer.emitThinkingSignature env signature=framer:=by
  intro signature
  unfold emitThinkingSignature
  simp [hsilent.1]
 have hblock:∀ toolUseId toolName partialJson,framer.emitToolUseBlock env toolUseId toolName partialJson=framer :=
  fun _ _ _=>if_pos hfinalized
 have hfinal:∀ stopReason,framer.emitFinalMessage env stopReason=framer :=
  fun _=>if_pos hfinalized
 cases op with
 | begin=>
  unfold SseOp.apply ensureStart
  simp [hfinalized]
 | pushEvent event=>exact if_pos hfinalized
 | emitThinkingDelta text=>exact hthinking text
 | emitThinkingSignature signature=>exact hsignature signature
 | completeThinking=>
  unfold SseOp.apply completeThinking closeThinking
  simp [hclosed]
 | emitTextDelta text=>
  unfold SseOp.apply emitTextDelta
  simp [hfinalized]
 | recordUsage=>exact if_pos hfinalized
 | addOutputTokens tokens=>
  unfold SseOp.apply addOutputTokens
  simp [hfinalized]
 | seedEstimatedInputTokens tokens=>
  unfold SseOp.apply seedEstimatedInputTokens
  simp [hfinalized]
 | emitToolPause toolUseId toolName partialJson=>
  change (framer.emitToolUseBlock env toolUseId toolName partialJson).emitFinalMessage env _=_
  rw [hblock,hfinal]
 | emitToolBatch tools=>
  have hfold:(tools.foldl (fun (encoder:CursorSseFramer) tool=>
    encoder.emitToolUseBlock env tool.1 tool.2.1 tool.2.2) framer)=framer:=by
   induction tools with
   | nil=>rfl
   | cons tool tools ih=>rw [List.foldl_cons,hblock,ih]
  change CursorSseEncoder.emitToolBatch env framer tools=framer
  unfold CursorSseEncoder.emitToolBatch
  rw [hfold,hfinal]
 | finalize=>exact if_pos hfinalized

theorem applyAll_ended (h:Ended framer) (ops:List SseOp) : applyAll env framer ops=framer:=by
 induction ops with
 | nil=>rfl
 | cons op ops ih=>
  unfold applyAll at ih ⊢
  rw [List.foldl_cons,apply_ended h op,ih]

/-- Whatever calls were made, the finished stream is well formed and stays as it is. -/
theorem finished_wellFormed (env:SseEnv) (compaction:Bool) (messageId model:String) (ops later:List SseOp) :
    let finished:=(applyAll env (create compaction messageId model) ops).finalize env
    WellFormed finished.output ∧ (applyAll env finished later).output=finished.output:=by
  have hended:=finalize_ended env (applyAll_framed env (create_framed compaction messageId model) ops)
  exact ⟨hended.wellFormed,congrArg output (applyAll_ended hended later)⟩

end CursorProxy.SseWellFormed
