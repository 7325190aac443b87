import CursorProxy.MessageAcc
import CursorProxy.SseContent

namespace CursorProxy.MessageContent
open BlockLanes CompactionText SandModel XmlElements SseFramer SseContent SseWellFormed MessageAcc
open AnthropicJsonAcc

def blockOf (env:SseEnv) : MessageBlock → Block
 | .thinking thinking signature=>.thinking thinking signature
 | .text text=>.text text
 | .toolUse id name input=>.toolUse id name ((env.toJson input).getD "\x7b\x7d")

/-- The content blocks of the collected answer that have something in them. -/
def collected (env:SseEnv) (message:Message) : List Block :=
 (message.content.map (blockOf env)).filter Block.full

def currentOf (acc:AnthropicJsonAcc) : Option Block :=
 match acc.thinking with
 | some (thinking,signature)=>some (.thinking thinking signature)
 | none=>if acc.text.isEmpty then none else some (.text acc.text)

def laneOf (env:SseEnv) (acc:AnthropicJsonAcc) : Lane :=
 ⟨acc.content.map (blockOf env),currentOf acc⟩

structure Single (acc:AnthropicJsonAcc) : Prop where
 mode : acc.compactionMode=false
 tools : acc.tools=[]
 text : acc.thinking.isSome=true → acc.text=[]

variable {env:SseEnv} {acc:AnthropicJsonAcc}

theorem flushThinking_lane (env:SseEnv) (h:Single acc) :
  laneOf env acc.flushThinking=(laneOf env acc).closeThinking ∧ Single acc.flushThinking ∧
   acc.flushThinking.thinking=none ∧ acc.flushThinking.text=acc.text:=by
 obtain ⟨hmode,htools,htext⟩:=h
 unfold flushThinking laneOf currentOf
 cases hthinking:acc.thinking with
 | none=>
  refine ⟨?_,⟨hmode,htools,htext⟩,hthinking,rfl⟩
  unfold Lane.closeThinking
  cases acc.text.isEmpty <;> simp [hthinking]
 | some pending=>
  have hempty:=htext (by rw [hthinking]; rfl)
  refine ⟨?_,⟨hmode,htools,fun h=>absurd h (by simp)⟩,rfl,rfl⟩
  simp [Lane.closeThinking,Lane.close,Lane.blocks,blockOf,hempty]

theorem put_text (lane:Lane) (text:Text) : lane.put (.text text)=lane.closeThinking.put (.text text):=by
 obtain ⟨closed,current⟩:=lane
 cases current with
 | none=>rfl
 | some current=>cases current <;> rfl

theorem pushText_lane (h:Single acc) (text:Text) :
  laneOf env (acc.pushText text)=messageStep (laneOf env acc) (.text text) ∧ Single (acc.pushText text):=by
 obtain ⟨hlane,hsingle,hidle,_⟩:=flushThinking_lane env h
 have hmode:¬(acc.flushThinking.compactionMode&&!acc.flushThinking.compactionSeenText) = true:=by
  rw [hsingle.mode]
  exact Bool.false_ne_true
 unfold pushText messageStep
 dsimp only
 rw [if_neg hmode,put_text,← hlane]
 refine ⟨?_,hsingle.mode,hsingle.tools,fun hthinking=>?_⟩
 · unfold laneOf currentOf
   dsimp only
   rw [hidle]
   cases text with
   | nil=>simp
   | cons char text=>
    cases hempty:acc.flushThinking.text with
    | nil=>simp [Lane.put]
    | cons=>simp [Lane.put,Block.join]
 · rw [hidle] at hthinking
   exact absurd hthinking (by simp)

theorem flushText_lane (env:SseEnv) (h:Single acc) (thought:Text) (signature:Option Text) :
  acc.flushText.content.map (blockOf env)=((laneOf env acc).put (.thinking thought signature)).closed ∧
   ((laneOf env acc).put (.thinking thought signature)).current =
    some (.thinking ((acc.flushText.thinking.getD ([],none)).1++thought)
     (signature.or (acc.flushText.thinking.getD ([],none)).2)) ∧
   acc.flushText.text=[] ∧ acc.flushText.tools=[] ∧ acc.flushText.compactionMode=false:=by
 obtain ⟨hmode,htools,htext⟩:=h
 unfold laneOf currentOf flushText
 cases hthinking:acc.thinking with
 | some pending=>
  have hempty:=htext (by rw [hthinking]; rfl)
  rw [hempty]
  simp [Lane.put,Block.join,hthinking,hempty,htools,hmode]
 | none=>
  cases hempty:acc.text with
  | nil=>simp [Lane.put,hthinking,hempty,htools,hmode]
  | cons=>simp [Lane.put,Block.join,htools,hmode,blockOf]

theorem pushThinking_lane (h:Single acc) (text:Text) :
  laneOf env (acc.pushThinking text)=(laneOf env acc).put (.thinking text none) ∧ Single (acc.pushThinking text):=by
 obtain ⟨hclosed,hcurrent,htext,htools,hmode⟩:=flushText_lane env h text none
 unfold pushThinking
 rw [if_neg (Bool.eq_false_iff.mp h.mode)]
 refine ⟨?_,hmode,htools,fun _=>htext⟩
 exact congrArg₂ Lane.mk hclosed hcurrent.symm

theorem pushSignature_lane (h:Single acc) {signature:Text} (hsignature:signature≠[]) :
  laneOf env (acc.pushSignature signature) = (laneOf env acc).put (.thinking [] (some signature)) ∧
   Single (acc.pushSignature signature):=by
 obtain ⟨hclosed,hcurrent,htext,htools,hmode⟩ :=
  flushText_lane env h [] (some signature)
 have hempty:signature.isEmpty=false :=
  Bool.eq_false_iff.mpr fun hempty=>hsignature (List.isEmpty_iff.mp hempty)
 rw [List.append_nil] at hcurrent
 unfold pushSignature
 rw [if_neg (by rw [h.mode,hempty]; exact Bool.false_ne_true)]
 refine ⟨?_,hmode,htools,fun _=>htext⟩
 exact congrArg₂ Lane.mk hclosed hcurrent.symm

theorem normal_push (env:SseEnv) (h:Single acc) {event:CursorStreamEvent}
  (htool:∀ toolUseId name input,event ≠ .nativeTool toolUseId name input) :
  laneOf env (acc.push event)=messageStep (laneOf env acc) (pieceOf event) ∧ Single (acc.push event):=by
 cases event with
 | session=>exact ⟨rfl,h⟩
 | thinkingDelta text=>exact pushThinking_lane h text.toList
 | thinkingSignature signature=>
  dsimp only [pieceOf]
  by_cases hempty:signature.toList.isEmpty=true
  · have hkept:acc.push (.thinkingSignature signature)=acc :=
     if_pos (by rw [hempty,Bool.or_true])
    rw [hkept,if_pos hempty]
    exact ⟨rfl,h⟩
  · rw [if_neg hempty]
    exact pushSignature_lane h fun hnil=>hempty (List.isEmpty_iff.mpr hnil)
 | thinkingCompleted | «end» =>
  obtain ⟨hlane,hsingle,_⟩:=flushThinking_lane env h
  exact ⟨hlane,hsingle⟩
 | textDelta text=>exact pushText_lane h text.toList
 | nativeTool toolUseId name input=>exact absurd rfl (htool toolUseId name input)
 | usage | outputTokenDelta=>exact ⟨rfl,h.mode,h.tools,h.text⟩

theorem normal_pushAll (env:SseEnv) (h:Single acc) {events:List CursorStreamEvent} (htools:toolFree events) :
  laneOf env (acc.pushAll events) = (events.map pieceOf).foldl messageStep (laneOf env acc) ∧
   Single (acc.pushAll events):=by
 induction events generalizing acc with
 | nil=>exact ⟨rfl,h⟩
 | cons event events ih=>
  obtain ⟨hevent,hrest⟩:=List.forall_mem_cons.mp htools
  obtain ⟨hlane,hsingle⟩:=normal_push env h hevent
  rw [List.map_cons,List.foldl_cons,← hlane]
  exact ih hsingle hrest

theorem collected_eq (messageId model:String) (h:acc.flushThinking.tools=[]) :
  collected env (acc.intoMessageJson messageId model) =
   (acc.flushThinking.content.map (blockOf env)++[Block.text
    (if acc.flushThinking.compactionMode&&acc.flushThinking.text.isEmpty then
     acc.flushThinking.compactionThinkingFallback
    else acc.flushThinking.text)]).filter Block.full:=by
 unfold collected intoMessageJson
 dsimp only
 generalize (if acc.flushThinking.compactionMode&&acc.flushThinking.text.isEmpty then
  acc.flushThinking.compactionThinkingFallback else acc.flushThinking.text)=text
 rw [h,List.map_nil,List.append_nil,List.map_append,List.filter_append,List.filter_append]
 cases text with
 | nil=>split <;> rfl
 | cons=>rfl

theorem normal_collected (h:Single acc) (messageId model:String) :
  collected env (acc.intoMessageJson messageId model) = (laneOf env acc).blocks.filter Block.full:=by
 obtain ⟨hlane,hsingle,hidle,_⟩:=flushThinking_lane env h
 have hmode:¬(acc.flushThinking.compactionMode&&acc.flushThinking.text.isEmpty)=true:=by
  rw [hsingle.mode]
  exact Bool.false_ne_true
 rw [← closeThinking_filter,← hlane,collected_eq messageId model hsingle.tools,if_neg hmode]
 unfold laneOf currentOf Lane.blocks
 rw [hidle,List.filter_append,List.filter_append]
 cases acc.flushThinking.text with
 | nil=>rfl
 | cons=>rfl

structure Gathers (acc:AnthropicJsonAcc) (gathered:Gathered) : Prop where
 mode : acc.compactionMode=true
 tools : acc.tools=[]
 content : acc.content=[]
 thinking : acc.thinking=none
 text : acc.text=gathered.shown
 fallback : acc.compactionThinkingFallback=gathered.fallback
 seen : acc.compactionSeenText=gathered.seen
 dropped : gathered.seen=true → gathered.fallback=[]

theorem Gathers.flushThinking {gathered:Gathered} (h:Gathers acc gathered) : acc.flushThinking=acc:=by
 unfold AnthropicJsonAcc.flushThinking
 rw [h.thinking]

theorem Gathers.pushText {gathered:Gathered} (h:Gathers acc gathered) (text:Text) :
  Gathers (acc.pushText text) (gathered.say text):=by
 have hsaw:=h.seen
 unfold AnthropicJsonAcc.pushText
 rw [h.flushThinking]
 dsimp only
 cases hseen:gathered.seen with
 | false=>
  rw [hseen] at hsaw
  rw [if_pos (by rw [h.mode,hsaw]; rfl)]
  exact ⟨h.mode,h.tools,h.content,h.thinking,congrArg (· ++ text) h.text,rfl,rfl,
   fun _=>rfl⟩
 | true=>
  rw [hseen] at hsaw
  rw [if_neg (by rw [h.mode,hsaw]; exact Bool.false_ne_true)]
  exact ⟨h.mode,h.tools,h.content,h.thinking,congrArg (· ++ text) h.text,
   h.fallback.trans (h.dropped hseen),hsaw,fun _=>rfl⟩

theorem Gathers.pushThinking {gathered:Gathered} (h:Gathers acc gathered) (text:Text) :
  Gathers (acc.pushThinking text) (gathered.think text):=by
 unfold AnthropicJsonAcc.pushThinking Gathered.think
 rw [if_pos h.mode,h.seen]
 cases hseen:gathered.seen with
 | false=>
  exact ⟨h.mode,h.tools,h.content,h.thinking,h.text,congrArg (· ++ text) h.fallback,
   rfl,fun hsaw=>absurd hsaw (by simp)⟩
 | true=>exact h

theorem Gathers.push {gathered:Gathered} (h:Gathers acc gathered) {event:CursorStreamEvent}
  (htool:∀ toolUseId name input,event ≠ .nativeTool toolUseId name input) :
  Gathers (acc.push event) (messageGather gathered (pieceOf event)):=by
 cases event with
 | session=>exact h
 | thinkingDelta text=>exact h.pushThinking text.toList
 | thinkingSignature signature=>
  have hkept:acc.push (.thinkingSignature signature)=acc:=if_pos (by rw [h.mode]; rfl)
  have hsame:messageGather gathered (pieceOf (.thinkingSignature signature))=gathered:=by
   dsimp only [pieceOf]
   split
   · rfl
   · simp [messageGather,Gathered.think]
  rw [hkept,hsame]
  exact h
 | thinkingCompleted | «end» =>
  change Gathers acc.flushThinking gathered
  rw [h.flushThinking]
  exact h
 | textDelta text=>exact h.pushText text.toList
 | nativeTool toolUseId name input=>exact absurd rfl (htool toolUseId name input)
 | usage | outputTokenDelta=>
  exact ⟨h.mode,h.tools,h.content,h.thinking,h.text,h.fallback,h.seen,h.dropped⟩

theorem Gathers.pushAll {gathered:Gathered} (h:Gathers acc gathered)
  {events:List CursorStreamEvent} (htools:toolFree events) :
  Gathers (acc.pushAll events) ((events.map pieceOf).foldl messageGather gathered):=by
 induction events generalizing acc gathered with
 | nil=>exact h
 | cons event events ih=>
  obtain ⟨hevent,hrest⟩:=List.forall_mem_cons.mp htools
  exact ih (h.push hevent) hrest

theorem Gathers.collected {gathered:Gathered} (h:Gathers acc gathered) (messageId model:String) :
  MessageContent.collected env (acc.intoMessageJson messageId model) =
   [Block.text gathered.answer].filter Block.full:=by
 have hflushed:=h.flushThinking
 rw [collected_eq messageId model (by rw [hflushed]; exact h.tools),hflushed,h.content,h.mode,
  h.text,h.fallback]
 rfl

theorem filter_text_inj {first second:Text} :
  [Block.text first].filter Block.full=[Block.text second].filter Block.full ↔ first=second:=by
 cases first <;> cases second <;> simp [Block.full,List.filter]

/-- In normal mode every thinking block of the stream has something in it, is not cut by
a text delta without text, and nothing comes after the end. In compaction mode the
thinking is not dropped because of text deltas without text. -/
def SameContent (compaction:Bool) (events:List CursorStreamEvent) : Prop :=
 if compaction then SameText (events.map pieceOf)
 else Agrees .outside (events.map pieceOf)

/-- For a model without the leading artifact the streamed and the collected answer carry
the same blocks exactly if the events are of that kind. -/
theorem same_content_iff (env:SseEnv) (compaction:Bool) (estimatedInput:ℕ)
    (messageId model:String) (events:List CursorStreamEvent)
    (hmodel:compaction=true ∨ fableProtocolArtifactCandidate model=false) (htools:toolFree events) :
    reconstruct (pushEvents env (create compaction messageId model) (events++[.end])).output =
        collected env ((newMode estimatedInput compaction).pushAll (events++[.end])
          |>.intoMessageJson messageId model) ↔
      SameContent compaction (events++[.end]):=by
  have hall:toolFree (events++[.end]):=by
    intro event hmem
    obtain hmem | hmem:=List.mem_append.mp hmem
    · exact htools event hmem
    · rw [List.mem_singleton.mp hmem]
      simp
  have hend:CursorStreamEvent.end∈events++[.end] :=
    List.mem_append_right _ (List.mem_singleton_self _)
  unfold SameContent
  cases compaction with
  | true=>
    have hgathers:Gathers (newMode estimatedInput true) .start :=
      ⟨rfl,rfl,rfl,rfl,rfl,rfl,rfl,fun h=>absurd h (by simp [Gathered.start])⟩
    have htold:Told .start:=⟨rfl,fun _=>rfl⟩
    have hstart:SseContent.content (create true messageId model)=compactView .start:=rfl
    rw [compact_pushEvents env htold hstart hall hend,(hgathers.pushAll hall).collected,filter_text_inj]
    exact sameText_iff _
  | false=>
    have hsingle:Single (newMode estimatedInput false):=⟨rfl,rfl,fun _=>rfl⟩
    have hstart:SseContent.content (create false messageId model)=viewOf ⟨[],none⟩:=by
      have hartifact:=hmodel.resolve_left (by simp)
      unfold create CursorSseFramer.new SseContent.content
      simp only [hartifact]
      rfl
    obtain ⟨hlane,hkept⟩:=normal_pushAll env hsingle hall
    rw [normal_pushEvents hstart hall,normal_collected hkept,hlane]
    exact lanes_agree_iff (.idle []) (List.mem_map.mpr ⟨_,hend,rfl⟩)

def stillEnv : SseEnv where
 now := fun _=>0
 toJson := fun _=>none

def streamed (compaction:Bool) (events:List CursorStreamEvent) : List Block :=
 reconstruct (pushEvents stillEnv (create compaction "msg_1" "auto") events).output

def gathered (compaction:Bool) (events:List CursorStreamEvent) : List Block :=
 collected stillEnv (((newMode 0 compaction).pushAll events).intoMessageJson "msg_1" "auto")

def thoughtAndText : List CursorStreamEvent :=
 [.thinkingDelta "a",.thinkingSignature "s",.textDelta "b"]

theorem same_content_iff_thoughtAndText :
    streamed false (thoughtAndText++[.end])=gathered false (thoughtAndText++[.end]):=by
  refine (same_content_iff stillEnv false 0 "msg_1" "auto" thoughtAndText (.inr (by decide)) ?_).mpr ?_
  · intro event hmem
    simp only [thoughtAndText,List.mem_cons,List.not_mem_nil,or_false] at hmem
    obtain rfl | rfl | rfl:=hmem <;> simp
  · exact ⟨by decide,fun _ hmem=>absurd hmem (by simp)⟩

/-- A text delta without text cuts the thinking of the collected answer in two, and drops
it in compaction mode. -/
theorem blank_text_divides :
    streamed false [.thinkingDelta "a",.textDelta "",.thinkingDelta "b",.end] = [.thinking "ab".toList none] ∧
      gathered false [.thinkingDelta "a",.textDelta "",.thinkingDelta "b",.end] =
        [.thinking "a".toList none,.thinking "b".toList none] ∧
      streamed true [.thinkingDelta "a",.textDelta "",.end]=[.text "a".toList] ∧
      gathered true [.thinkingDelta "a",.textDelta "",.end]=[]:=by
  decide +kernel

end CursorProxy.MessageContent
