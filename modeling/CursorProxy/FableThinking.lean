import CursorProxy.SseContent

/-! Only one block of thinking that leads the text is taken for reasoning. What is kept back
while the text arrives is read again with the text that follows, so that the cuts in the text
leave no trace. -/
namespace CursorProxy.FableThinking
open CautiousScan SandModel SseContent SseFramer CursorSseFramer XmlElements

/-- The texts that a reader of the stream puts together. -/
@[ext] structure Channels where
 visible : Text
 reasoning : Text
 deriving DecidableEq

namespace Channels

instance : Append Channels where
 append first second :=
  ⟨first.visible++second.visible,first.reasoning++second.reasoning⟩

def none : Channels := ⟨[],[]⟩

theorem append_assoc (first second third:Channels) : first++second++third=first++(second++third) :=
 Channels.ext (List.append_assoc _ _ _) (List.append_assoc _ _ _)

@[simp] theorem append_none (channels:Channels) : channels++none=channels :=
 Channels.ext (List.append_nil _) (List.append_nil _)

end Channels

def channelOf : SseEvent → Channels
 | .contentBlockDelta _ (.textDelta text)=>⟨text,[]⟩
 | .contentBlockDelta _ (.thinkingDelta thinking)=>⟨[],thinking⟩
 | _=>.none

def renderedChannels (events:List SseEvent) : Channels :=
 events.foldl (fun channels event=>channels++channelOf event) .none

/-- The reasoning ends at the first closing tag. -/
def splitBody (text:Text) : Channels :=
 match find fableThinkingClose text with
 | some closeAt=>⟨text.drop (closeAt+fableThinkingClose.length),text.take closeAt⟩
 | none=>⟨[],text⟩

/-- What the channels are to carry when the text is read in one piece. -/
def splitFree (text:Text) : Channels :=
 let white:=text.takeWhile isAsciiWhitespace
 let candidate:=text.drop white.length
 if textBytes white ≤ fableThinkingLeadingWsMaxBytes ∧ fableThinkingOpen <+: candidate then
  splitBody (candidate.drop fableThinkingOpen.length)
 else ⟨text,[]⟩

/-- What becomes of the text that a state has not yet told. -/
def resolve : LeadingThinkingArtifactState → Text → Channels
 | .disabled,text | .passthrough,text=>⟨text,[]⟩
 | .candidate,text=>splitFree text
 | .body,text=>splitBody text

theorem utf8Size_of_isAsciiWhitespace {char:Char} (h:isAsciiWhitespace char=true) : char.utf8Size=1:=by
 unfold isAsciiWhitespace at h
 rw [List.contains_iff_mem] at h
 simp only [List.mem_cons,List.not_mem_nil,or_false] at h
 rcases h with rfl | rfl | rfl | rfl | rfl <;> rfl

theorem textBytes_white {white:Text} (h:∀ char∈white,isAsciiWhitespace char=true) : textBytes white=white.length:=by
 induction white with
 | nil=>rfl
 | cons char white ih=>
  obtain ⟨hchar,hwhite⟩:=List.forall_mem_cons.mp h
  have hrest:=ih hwhite
  unfold textBytes at hrest ⊢
  rw [List.map_cons,List.sum_cons,utf8Size_of_isAsciiWhitespace hchar,hrest,List.length_cons]
  omega

theorem textBytes_takeWhile (text:Text) :
  textBytes (text.takeWhile isAsciiWhitespace) = (text.takeWhile isAsciiWhitespace).length :=
 textBytes_white fun _=>List.mem_takeWhile_imp

theorem resolve_nil (artifact:LeadingThinkingArtifactState) : resolve artifact []=.none:=by
 cases artifact <;> rfl

theorem takeWhile_append_stopped {text:Text} (more:Text) (h:text.drop (text.takeWhile isAsciiWhitespace).length≠[]) :
  (text++more).takeWhile isAsciiWhitespace=text.takeWhile isAsciiWhitespace:=by
 rw [List.takeWhile_append,if_neg]
 intro hlength
 apply h
 rw [hlength,List.drop_length]

theorem splitFree_append_wide {text:Text} (more:Text)
  (h:fableThinkingLeadingWsMaxBytes<(text.takeWhile isAsciiWhitespace).length) :
  splitFree (text++more)=⟨text++more,[]⟩:=by
 unfold splitFree
 rw [if_neg]
 rintro ⟨hbytes,_⟩
 rw [textBytes_takeWhile,List.takeWhile_append] at hbytes
 split at hbytes
 · rename_i hall
   rw [List.length_append] at hbytes
   omega
 · omega

theorem splitFree_append_opened {text:Text} (more:Text)
  (hwhite:(text.takeWhile isAsciiWhitespace).length ≤ fableThinkingLeadingWsMaxBytes)
  (hopen:fableThinkingOpen <+: text.drop (text.takeWhile isAsciiWhitespace).length) :
  splitFree (text++more)=splitBody
   (text.drop ((text.takeWhile isAsciiWhitespace).length+fableThinkingOpen.length) ++ more):=by
 have hstopped:text.drop (text.takeWhile isAsciiWhitespace).length≠[]:=by
  intro hnil
  rw [hnil] at hopen
  exact absurd hopen.length_le (by decide)
 have hroom:=hopen.length_le
 rw [List.length_drop] at hroom
 have hbehind:(text++more).drop (text.takeWhile isAsciiWhitespace).length =
   text.drop (text.takeWhile isAsciiWhitespace).length++more :=
  List.drop_append_of_le_length (List.takeWhile_prefix _).length_le
 unfold splitFree
 rw [takeWhile_append_stopped more hstopped]
 dsimp only
 rw [textBytes_takeWhile,hbehind,if_pos ⟨hwhite,hopen.trans (List.prefix_append _ _)⟩,
  List.drop_append_of_le_length (by rw [List.length_drop]; exact hroom),List.drop_drop]

theorem splitFree_append_other {text:Text} (more:Text)
  (hopen:¬fableThinkingOpen <+: text.drop (text.takeWhile isAsciiWhitespace).length)
  (hbegins:¬text.drop (text.takeWhile isAsciiWhitespace).length <+: fableThinkingOpen) :
  splitFree (text++more)=⟨text++more,[]⟩:=by
 have hstopped:text.drop (text.takeWhile isAsciiWhitespace).length≠[]:=by
  intro hnil
  rw [hnil] at hbegins
  exact hbegins List.nil_prefix
 have hroom:(text.takeWhile isAsciiWhitespace).length ≤ text.length :=
  (List.takeWhile_prefix _).length_le
 unfold splitFree
 rw [takeWhile_append_stopped more hstopped]
 dsimp only
 rw [if_neg]
 rintro ⟨_,hword⟩
 rw [List.drop_append_of_le_length hroom] at hword
 rcases List.prefix_or_prefix_of_prefix hword (List.prefix_append _ more) with hfront | hfront
 · exact hopen hfront
 · exact hbegins hfront

theorem splitBody_append_closed {text:Text} (more:Text) {closeAt:ℕ} (h:find fableThinkingClose text=some closeAt) :
  splitBody (text++more) = ⟨[],text.take closeAt⟩ ++ ⟨text.drop (closeAt+fableThinkingClose.length)++more,[]⟩:=by
 have hroom:=find_length h
 unfold splitBody
 rw [find_append more h]
 dsimp only
 rw [List.drop_append_of_le_length hroom,List.take_append_of_le_length (by omega)]
 exact Channels.ext rfl (List.append_nil _).symm

theorem splitBody_append_passed {text:Text} (more:Text) (h:find fableThinkingClose text=none) :
  splitBody (text++more) =
   ⟨[],text.take (text.length-prefixSuffixLength text fableThinkingClose)⟩ ++
    splitBody (text.drop (text.length-prefixSuffixLength text fableThinkingClose) ++ more):=by
 have hfind:=find_append_of_held h more
 have hroom:text.length-prefixSuffixLength text fableThinkingClose ≤ text.length :=
  Nat.sub_le _ _
 generalize text.length-prefixSuffixLength text fableThinkingClose=passed at *
 have hcut:text++more=text.take passed++(text.drop passed++more):=by
  rw [← List.append_assoc,List.take_append_drop]
 have hlength:(text.take passed).length=passed:=List.length_take_of_le hroom
 unfold splitBody
 rw [hfind]
 cases hlater:find fableThinkingClose (text.drop passed++more) with
 | none=>
  rw [hcut]
  rfl
 | some closeAt=>
  have hplace:closeAt+passed+fableThinkingClose.length =
    (text.take passed).length+(closeAt+fableThinkingClose.length):=by
   rw [hlength]
   omega
  have hbefore:closeAt+passed=(text.take passed).length+closeAt:=by
   rw [hlength,Nat.add_comm]
  dsimp only [Option.map_some]
  rw [hcut,hplace,hbefore,List.drop_length_add_append,List.take_length_add_append]
  rfl

structure Told where
 channels : Channels
 finalized : Bool
 compactionMode : Bool
 artifact : LeadingThinkingArtifactState
 buffer : Text

def told (framer:CursorSseFramer) : Told where
 channels := renderedChannels framer.output
 finalized := framer.state.finalized
 compactionMode := framer.state.compactionMode
 artifact := framer.state.leadingThinkingArtifact
 buffer := framer.state.leadingThinkingBuffer

def Told.tell (seen:Told) (channels:Channels) : Told :=
 { seen with channels := seen.channels++channels }

/-- What the channels come to when this text follows and the stream ends. -/
def Told.outcome (seen:Told) (more:Text) : Channels :=
 seen.channels++resolve seen.artifact (seen.buffer++more)

@[simp] theorem Told.tell_none (seen:Told) : seen.tell .none=seen:=by
 unfold tell
 rw [Channels.append_none]

variable {env:SseEnv} {framer:CursorSseFramer}

theorem told_write (framer:CursorSseFramer) (event:SseEvent) :
  told (framer.writeSseEvent event)=(told framer).tell (channelOf event):=by
 unfold told writeSseEvent renderedChannels
 dsimp only
 rw [List.foldl_append]
 rfl

theorem told_ensureStart (env:SseEnv) (framer:CursorSseFramer) : told (framer.ensureStart env)=told framer:=by
 unfold ensureStart
 split
 · rfl
 · exact (told_write _ _).trans (Told.tell_none _)

theorem told_closeThinking (framer:CursorSseFramer) : told framer.closeThinking=told framer:=by
 unfold closeThinking
 split
 · exact (told_write _ _).trans (Told.tell_none _)
 · rfl

theorem told_closeText (framer:CursorSseFramer) : told framer.closeText=told framer:=by
 unfold closeText
 split
 · exact (told_write _ _).trans (Told.tell_none _)
 · rfl

theorem told_openThinking (env:SseEnv) (framer:CursorSseFramer) : told (framer.openThinking env).1=told framer:=by
 have hclosed:told (if framer.state.textOpen then framer.closeText else framer) =
   told framer:=by
  split
  · exact told_closeText framer
  · rfl
 unfold openThinking
 split
 · rfl
 · split
   · rfl
   · refine (told_write _ _).trans ((Told.tell_none _).trans ?_)
     exact (told_ensureStart env _).trans hclosed

theorem told_openText (env:SseEnv) (framer:CursorSseFramer) : told (framer.openText env).1=told framer:=by
 have hclosed:told (if framer.state.thinkingOpen then framer.closeThinking else framer) =
   told framer:=by
  split
  · exact told_closeThinking framer
  · rfl
 unfold openText
 split
 · rfl
 · split
   · rfl
   · refine (told_write _ _).trans ((Told.tell_none _).trans ?_)
     exact (told_ensureStart env _).trans hclosed

theorem told_noteGeneratedText (framer:CursorSseFramer) (text:Text) :
  told (framer.noteGeneratedText text)=told framer:=by
 unfold noteGeneratedText
 split <;> rfl

theorem told_maybeEmitUsageProgress (env:SseEnv) (force:Bool) (framer:CursorSseFramer) :
  told (framer.maybeEmitUsageProgress env force)=told framer :=
 SseWellFormed.maybeEmitUsageProgress_kept told env force framer (fun _=>rfl) fun _ _ _ _ _ _ =>
  (told_write _ _).trans (Told.tell_none _)

theorem told_emitTextDeltaRaw (h:framer.state.finalized=false) (text:Text) :
  told (framer.emitTextDeltaRaw env text)=(told framer).tell ⟨text,[]⟩:=by
 have hopened:=(SseWellFormed.openText_spec env framer).2.1
 have htold:=told_openText env framer
 unfold emitTextDeltaRaw
 rw [h] at hopened
 split
 · rename_i hempty
   rw [List.isEmpty_iff.mp hempty]
   exact (Told.tell_none _).symm
 · split
   · rename_i opened heq
     rw [heq] at hopened
     exact absurd hopened (by simp)
   · rename_i opened heq
     rw [heq] at htold
     dsimp only at htold ⊢
     rw [told_maybeEmitUsageProgress,told_write,told_noteGeneratedText,← htold]
     rfl

theorem told_emitThinkingDelta (h:framer.state.finalized=false) (hmode:framer.state.compactionMode=false) (text:Text) :
  told (framer.emitThinkingDelta env text)=(told framer).tell ⟨[],text⟩:=by
 have hopened:=(SseWellFormed.openThinking_spec env framer).2.1
 have htold:=told_openThinking env framer
 unfold emitThinkingDelta
 rw [if_neg (Bool.eq_false_iff.mp hmode)]
 rw [h] at hopened
 split
 · rename_i opened heq
   rw [heq] at hopened
   exact absurd hopened (by simp)
 · rename_i opened heq
   rw [heq] at htold
   dsimp only at htold ⊢
   rw [told_write,told_noteGeneratedText,htold]
   rfl

def keepsBack : LeadingThinkingArtifactState → Bool
 | .candidate | .body=>true
 | .disabled | .passthrough=>false

/-- Reading changes no outcome. Text may follow except at the end, where all is told. -/
structure Drained (flush:Bool) (before after:Told) : Prop where
 finalized : after.finalized=before.finalized
 compactionMode : after.compactionMode=before.compactionMode
 emptied : flush=true ∨ keepsBack after.artifact=false → after.buffer=[]
 outcome : ∀ more,(flush=true → more=[]) → after.outcome more=before.outcome more

theorem Drained.after {flush:Bool} {before middle after:Told} (h:Drained flush middle after)
  (hfinalized:middle.finalized=before.finalized) (hmode:middle.compactionMode=before.compactionMode)
  (houtcome:∀ more,(flush=true → more=[]) → middle.outcome more=before.outcome more) :
  Drained flush before after where
 finalized := h.finalized.trans hfinalized
 compactionMode := h.compactionMode.trans hmode
 emptied := h.emptied
 outcome more hmore := (h.outcome more hmore).trans (houtcome more hmore)

theorem resolve_of_told {artifact:LeadingThinkingArtifactState}
  (h:keepsBack artifact=false) (text:Text) : resolve artifact text=⟨text,[]⟩:=by
 cases artifact with
 | disabled | passthrough=>rfl
 | candidate | body=>exact absurd h (by decide)

theorem told_drainPassthrough (h:framer.state.finalized=false) :
  told (framer.drainPassthrough env) =
   { (told framer).tell ⟨framer.state.leadingThinkingBuffer,[]⟩ with buffer := [] }:=by
 unfold drainPassthrough
 split
 · rename_i hempty
   have hnil:=List.isEmpty_iff.mp hempty
   have hnone:Channels.mk [] []=.none:=rfl
   unfold told
   rw [hnil,hnone,Told.tell_none]
 · rw [told_emitTextDeltaRaw]
   · rfl
   · exact h

theorem drained_passthrough (flush:Bool) (h:framer.state.finalized=false)
  (hartifact:keepsBack framer.state.leadingThinkingArtifact=false) :
  Drained flush (told framer) (told (framer.drainPassthrough env)):=by
 rw [told_drainPassthrough h]
 refine ⟨rfl,rfl,fun _=>rfl,fun more _=>?_⟩
 unfold Told.outcome
 have hbefore:=resolve_of_told hartifact (framer.state.leadingThinkingBuffer++more)
 have hafter:=resolve_of_told hartifact more
 change renderedChannels framer.output++⟨framer.state.leadingThinkingBuffer,[]⟩ ++
   resolve framer.state.leadingThinkingArtifact more =
  renderedChannels framer.output ++
   resolve framer.state.leadingThinkingArtifact (framer.state.leadingThinkingBuffer++more)
 rw [hbefore,hafter]
 exact Channels.append_assoc _ _ _

theorem drained_body (flush:Bool) (h:framer.state.finalized=false) (hmode:framer.state.compactionMode=false)
  (hartifact:framer.state.leadingThinkingArtifact=.body) :
  Drained flush (told framer) (told (framer.drainBody env flush)):=by
 have htold:told framer=⟨renderedChannels framer.output,false,false,.body,framer.state.leadingThinkingBuffer⟩:=by
  unfold told
  rw [h,hmode,hartifact]
 unfold drainBody
 dsimp only
 generalize framer.state.leadingThinkingBuffer=buffer at htold ⊢
 split
 · rename_i closeAt hfind
   have hreasoned:told (if 0<closeAt then framer.emitThinkingDelta env (buffer.take closeAt)
     else framer)=(told framer).tell ⟨[],buffer.take closeAt⟩:=by
    split
    · exact told_emitThinkingDelta h hmode _
    · rename_i hzero
      rw [Nat.eq_zero_of_not_pos hzero]
      exact (Told.tell_none _).symm
   generalize (if 0<closeAt then framer.emitThinkingDelta env (buffer.take closeAt)
    else framer)=reasoned at hreasoned ⊢
   rw [htold] at hreasoned ⊢
   have hlive:=congrArg Told.finalized hreasoned
   have hnormal:=congrArg Told.compactionMode hreasoned
   have hchannels:=congrArg Told.channels hreasoned
   refine (drained_passthrough flush ?_ rfl).after ?_ ?_ fun more _=>?_
   · exact hlive
   · exact hlive
   · exact hnormal
   · have hsplit:=splitBody_append_closed more hfind
     change renderedChannels reasoned.output++_=renderedChannels framer.output ++
      splitBody (buffer++more)
     rw [hsplit,← Channels.append_assoc]
     exact congrArg (· ++ _) hchannels
 · rename_i hfind
   split
   · rename_i hflush
     have hthought:=@told_emitThinkingDelta env { framer with state.leadingThinkingBuffer := [] } h hmode buffer
     have hcleared:told { framer with state.leadingThinkingBuffer:=[] } =
       { told framer with buffer := [] } := rfl
     rw [hthought,hcleared,htold]
     refine ⟨rfl,rfl,fun _=>rfl,fun more hmore=>?_⟩
     obtain rfl:=hmore hflush
     have hsplit:splitBody buffer=⟨[],buffer⟩:=by
      unfold splitBody
      rw [hfind]
     change renderedChannels framer.output++⟨[],buffer⟩++Channels.none =
      renderedChannels framer.output++splitBody (buffer++[])
     rw [List.append_nil,hsplit,Channels.append_none]
   · rename_i hflush
     have hkept:∀ after:Told,after={ (told framer).tell ⟨[],buffer.take (buffer.length -
           prefixSuffixLength buffer fableThinkingClose)⟩ with
       buffer := buffer.drop (buffer.length - prefixSuffixLength buffer fableThinkingClose) } →
       Drained flush (told framer) after:=by
      rintro after rfl
      rw [htold]
      refine ⟨rfl,rfl,fun hempty=>?_,fun more _=>?_⟩
      · exact hempty.elim (absurd · hflush) (absurd · (by simp [Told.tell,keepsBack]))
      · have hsplit:=splitBody_append_passed more hfind
        change renderedChannels framer.output++_++_=renderedChannels framer.output ++
         splitBody (buffer++more)
        rw [hsplit]
        exact Channels.append_assoc _ _ _
     apply hkept
     split
     · exact @told_emitThinkingDelta env { framer with
        state.leadingThinkingBuffer :=
         buffer.drop (buffer.length-prefixSuffixLength buffer fableThinkingClose) } h hmode _
     · rename_i hzero
       rw [Nat.eq_zero_of_not_pos hzero,htold]
       exact (Told.tell_none _).symm

theorem drained_candidate (flush:Bool) (h:framer.state.finalized=false) (hmode:framer.state.compactionMode=false)
  (hartifact:framer.state.leadingThinkingArtifact=.candidate) :
  Drained flush (told framer) (told (framer.drainCandidate env flush)):=by
 have htold:told framer=⟨renderedChannels framer.output,false,false,.candidate,
   framer.state.leadingThinkingBuffer⟩:=by
  unfold told
  rw [h,hmode,hartifact]
 -- the text that turns out to be ordinary is told as it stands
 have hother:(∀ more,(flush=true → more=[]) →
   splitFree (framer.state.leadingThinkingBuffer++more) = ⟨framer.state.leadingThinkingBuffer++more,[]⟩) →
   Drained flush (told framer) (told (({ framer with
    state.leadingThinkingArtifact := .passthrough }).drainPassthrough env)):=by
  intro hsplit
  refine (@drained_passthrough env { framer with
   state.leadingThinkingArtifact := .passthrough } flush h rfl).after rfl rfl fun more hmore=>?_
  rw [htold]
  exact congrArg (renderedChannels framer.output ++ ·) (hsplit more hmore).symm
 unfold drainCandidate
 dsimp only
 split
 · rename_i hempty
   exact ⟨rfl,rfl,fun _=>List.isEmpty_iff.mp hempty,fun _ _=>rfl⟩
 · split
   · rename_i hwide
     exact hother fun more _=>splitFree_append_wide more hwide
   · rename_i hwhite
     split
     · rename_i hopen
       refine (@drained_body env { framer with
        state.leadingThinkingBuffer := framer.state.leadingThinkingBuffer.drop
         ((framer.state.leadingThinkingBuffer.takeWhile isAsciiWhitespace).length + fableThinkingOpen.length)
        state.leadingThinkingArtifact := .body } flush h hmode rfl).after rfl rfl fun more _=>?_
       have hsplit:=splitFree_append_opened more (Nat.le_of_not_lt hwhite) (List.isPrefixOf_iff_prefix.mp hopen)
       rw [htold]
       exact congrArg (renderedChannels framer.output ++ ·) hsplit.symm
     · rename_i hopen
       rw [List.isPrefixOf_iff_prefix] at hopen
       split
       · rename_i hheld
         refine ⟨rfl,rfl,fun hempty=>?_,fun _ _=>rfl⟩
         rw [htold] at hempty
         rcases hempty with hflush | hkept
         · rw [hflush] at hheld
           exact absurd hheld Bool.false_ne_true
         · exact absurd hkept (by simp [keepsBack])
       · rename_i hheld
         refine hother fun more hmore=>?_
         rcases Bool.eq_false_or_eq_true flush with hflush | hflush
         · rw [hmore hflush,List.append_nil]
           exact if_neg fun hboth=>hopen hboth.2
         · refine splitFree_append_other more hopen fun hbegins=>hheld ?_
           rw [hflush,List.isPrefixOf_iff_prefix.mpr hbegins]
           rfl

theorem drained_leadingThinkingArtifact (env:SseEnv) (flush:Bool)
  (h:framer.state.finalized=false) (hmode:framer.state.compactionMode=false) :
  Drained flush (told framer) (told (framer.drainLeadingThinkingArtifact env flush)):=by
 unfold drainLeadingThinkingArtifact
 split
 · rename_i hartifact
   exact drained_passthrough flush h (by rw [hartifact]; rfl)
 · rename_i hartifact
   exact drained_passthrough flush h (by rw [hartifact]; rfl)
 · rename_i hartifact
   exact drained_candidate flush h hmode hartifact
 · rename_i hartifact
   exact drained_body flush h hmode hartifact

/-- The framer has read this much of a text and owes the channels that `start` gives it. -/
structure Owes (start:LeadingThinkingArtifactState) (text:Text) (seen:Told) : Prop where
 finalized : seen.finalized=false
 compactionMode : seen.compactionMode=false
 emptied : keepsBack seen.artifact=false → seen.buffer=[]
 outcome : ∀ more,seen.outcome more=resolve start (text++more)

theorem owes_new (messageId model:String) :
  Owes (CursorSseFramer.new messageId model).state.leadingThinkingArtifact [] (told (.new messageId model)) :=
 ⟨rfl,rfl,fun _=>rfl,fun _=>rfl⟩

theorem Owes.textDelta {start:LeadingThinkingArtifactState} {before:Text}
  (h:Owes start before (told framer)) (text:Text) :
  Owes start (before++text) (told (framer.emitTextDelta env text)):=by
 have hlive:framer.state.finalized=false:=h.finalized
 have hmode:framer.state.compactionMode=false:=h.compactionMode
 unfold emitTextDelta
 rw [if_neg (Bool.eq_false_iff.mp hmode),hlive,Bool.or_false]
 by_cases hempty:text.isEmpty=true
 · rw [if_pos hempty,List.isEmpty_iff.mp hempty,List.append_nil]
   exact h
 · rw [if_neg hempty]
   -- what was kept back is read again together with the new text
   have hread:Owes start (before++text) (told (({ framer with
     state.leadingThinkingBuffer :=
      framer.state.leadingThinkingBuffer++text }).drainLeadingThinkingArtifact env false)):=by
    obtain ⟨hfinalized,hcompaction,hemptied,houtcome⟩ :=
     @drained_leadingThinkingArtifact { framer with
      state.leadingThinkingBuffer := framer.state.leadingThinkingBuffer++text }
      env false hlive hmode
    refine ⟨hfinalized.trans hlive,hcompaction.trans hmode,fun hkept=>hemptied (.inr hkept),
     fun more=>?_⟩
    rw [houtcome more (fun hflush=>absurd hflush Bool.false_ne_true),List.append_assoc,
     ← h.outcome]
    exact congrArg (fun buffer=>renderedChannels framer.output ++
     resolve framer.state.leadingThinkingArtifact buffer) (List.append_assoc _ _ _)
   have hraw:keepsBack framer.state.leadingThinkingArtifact=false →
     Owes start (before++text) (told (framer.emitTextDeltaRaw env text)):=by
    intro hkept
    have hbuffer:framer.state.leadingThinkingBuffer=[]:=h.emptied hkept
    rw [told_emitTextDeltaRaw hlive]
    refine ⟨hlive,hmode,fun _=>hbuffer,fun more=>?_⟩
    have hbefore:=h.outcome (text++more)
    rw [List.append_assoc,← hbefore]
    unfold Told.outcome
    change renderedChannels framer.output++⟨text,[]⟩ ++
      resolve framer.state.leadingThinkingArtifact (framer.state.leadingThinkingBuffer++more) =
     renderedChannels framer.output++resolve framer.state.leadingThinkingArtifact
      (framer.state.leadingThinkingBuffer++(text++more))
    rw [hbuffer,resolve_of_told hkept,resolve_of_told hkept,Channels.append_assoc]
    rfl
   split
   · exact hread
   · exact hread
   · rename_i hartifact
     exact hraw (by rw [hartifact]; rfl)
   · rename_i hartifact
     exact hraw (by rw [hartifact]; rfl)

theorem told_emitFinalMessage (env:SseEnv) (h:framer.state.finalized=false) (stopReason:String) :
  (told (framer.emitFinalMessage env stopReason)).channels =
   (told ((framer.ensureStart env).flushDeferredText env)).channels:=by
 have hclosed:told ((framer.ensureStart env).closeOpenBlocks env) =
   told ((framer.ensureStart env).flushDeferredText env) :=
  (told_closeText _).trans (told_closeThinking _)
 unfold emitFinalMessage
 rw [if_neg (Bool.eq_false_iff.mp h),← hclosed]
 dsimp only
 generalize (framer.ensureStart env).closeOpenBlocks env=closed
 have hdelta:=(told_write closed (.messageDelta (some stopReason)
  ⟨closed.usageSnapshot.1,closed.usageSnapshot.2.1,closed.usageSnapshot.2.2.2,
   closed.usageSnapshot.2.2.1⟩)).trans (Told.tell_none _)
 refine (congrArg Told.channels ((told_write _ .messageStop).trans (Told.tell_none _))).trans ?_
 exact congrArg Told.channels hdelta

theorem Owes.end {start:LeadingThinkingArtifactState} {text:Text} (h:Owes start text (told framer)) :
  renderedChannels (CursorSseEncoder.pushEvent env framer .end).output=resolve start text:=by
 have hlive:framer.state.finalized=false:=h.finalized
 have hstart:=told_ensureStart env framer
 rw [push_end hlive]
 refine (told_emitFinalMessage env hlive "end_turn").trans ?_
 rw [← hstart] at h
 generalize framer.ensureStart env=ready at h
 have hmode:ready.state.compactionMode=false:=h.compactionMode
 have hdrained:=drained_leadingThinkingArtifact env true h.finalized hmode
 have howed:=hdrained.outcome [] (fun _=>rfl)
 rw [h.outcome,List.append_nil] at howed
 unfold flushDeferredText
 rw [if_neg (Bool.eq_false_iff.mp hmode),← howed]
 unfold Told.outcome
 rw [hdrained.emptied (.inl rfl),List.append_nil,resolve_nil,Channels.append_none]

theorem Owes.textDeltas {start:LeadingThinkingArtifactState} {before:Text}
  (h:Owes start before (told framer)) (texts:List String) :
  Owes start (before++texts.flatMap String.toList) (told (pushEvents env framer (texts.map .textDelta))):=by
 induction texts generalizing framer before with
 | nil=>
  rw [List.flatMap_nil,List.append_nil]
  exact h
 | cons text texts ih=>
  have hpush:CursorSseEncoder.pushEvent env framer (.textDelta text) =
    framer.emitTextDelta env text.toList := if_neg (Bool.eq_false_iff.mp h.finalized)
  rw [List.flatMap_cons,← List.append_assoc]
  change Owes start _ (told (pushEvents env
   (CursorSseEncoder.pushEvent env framer (.textDelta text)) (texts.map .textDelta)))
  rw [hpush]
  exact ih (h.textDelta text.toList)

theorem channels_of_texts (env:SseEnv) (messageId model:String) (texts:List String) :
  renderedChannels (pushEvents env (.new messageId model) (texts.map .textDelta++[.end])).output =
   resolve (CursorSseFramer.new messageId model).state.leadingThinkingArtifact (texts.flatMap String.toList):=by
 have howed:=@Owes.textDeltas env _ _ _ (owes_new messageId model) texts
 unfold pushEvents at howed ⊢
 rw [List.foldl_append]
 exact howed.end

theorem fable_splits_leading_thinking (env:SseEnv) (messageId model:String)
    (hfable:fableProtocolArtifactCandidate model=true) (texts:List String) :
    renderedChannels (pushEvents env (.new messageId model) (texts.map .textDelta++[.end])).output =
      splitFree (texts.flatMap String.toList):=by
  have hstart:(CursorSseFramer.new messageId model).state.leadingThinkingArtifact =
      .candidate := if_pos hfable
  have hchannels:=channels_of_texts env messageId model texts
  rw [hstart] at hchannels
  exact hchannels

/-- Both tags are cut, and the tags of the visible text stay. -/
theorem fable_splits_leading_thinking_cut_tags :
    renderedChannels (pushEvents ⟨fun _=>0,fun _=>none⟩
        (.new "msg_leading_artifact" "claude-fable-5")
        (([" \n<thin","king>private ","reasoning</think",
          "ing>\nanswer <thinking>visible example</thinking>"].map
            CursorStreamEvent.textDelta)++[.end])).output =
      ⟨"\nanswer <thinking>visible example</thinking>".toList,"private reasoning".toList⟩ :=
  (fable_splits_leading_thinking _ _ _ (by decide) _).trans (by decide)

end CursorProxy.FableThinking
