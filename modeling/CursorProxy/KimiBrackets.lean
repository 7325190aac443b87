import CursorProxy.BlockBrackets
import CursorProxy.KimiReassembly
import CursorProxy.KimiStream

namespace CursorProxy.KimiBrackets
open BlockBrackets KimiReducer KimiStream ReducerState SseEvents XmlElements

inductive BlockKind where
 | thinking
 | text
 | tool
 deriving DecidableEq

def bracketOf : ReducerEvent → Option (Bracket BlockKind)
 | .thinkingStart index=>some (.start index .thinking)
 | .thinkingDelta index _=>some (.delta index .thinking)
 | .thinkingStop index=>some (.stop index .thinking)
 | .textStart index=>some (.start index .text)
 | .textDelta index _=>some (.delta index .text)
 | .textStop index=>some (.stop index .text)
 | .toolStart index _ _=>some (.start index .tool)
 | .toolDelta index _=>some (.delta index .tool)
 | .toolStop index=>some (.stop index .tool)
 | .finish _ _=>none

def bracketsOf (events:List ReducerEvent) : List (Bracket BlockKind) :=
 events.filterMap bracketOf

def openKind (s:ReducerState) (index:ℕ) : Option BlockKind :=
 if s.thinkingIndex=some index then some .thinking
 else if s.textIndex=some index then some .text
 else if s.toolSlots.any fun slot=>slot.blockIndex=index then some .tool
 else none

structure Bracketed (s:ReducerState) : Prop where
 reads : Blocks.none.readAll (bracketsOf s.out)=some ⟨s.nextBlockIndex,openKind s⟩
 unfinished : ∀ event∈s.out,(bracketOf event).isSome=true
 thinking : ∀ index,s.thinkingIndex=some index → index<s.nextBlockIndex ∧
  s.textIndex≠some index ∧ (s.toolSlots.any fun slot=>slot.blockIndex=index)=false
 text : ∀ index,s.textIndex=some index → index<s.nextBlockIndex ∧
  (s.toolSlots.any fun slot=>slot.blockIndex=index)=false
 slots : ∀ slot∈s.toolSlots,slot.blockIndex<s.nextBlockIndex
 nodup : (s.toolSlots.map ToolSlot.blockIndex).Nodup

theorem bracketsOf_append (events more:List ReducerEvent) :
  bracketsOf (events++more)=bracketsOf events++bracketsOf more :=
 List.filterMap_append

section steps
variable {s:ReducerState}

theorem Bracketed.slot_free (h:Bracketed s) : (s.toolSlots.any fun slot=>slot.blockIndex=s.nextBlockIndex)=false:=by
 rw [List.any_eq_false]
 intro slot hslot hindex
 have hless:=h.slots slot hslot
 have hsame:slot.blockIndex=s.nextBlockIndex:=of_decide_eq_true hindex
 omega

theorem Bracketed.text_free (h:Bracketed s) : s.textIndex≠some s.nextBlockIndex :=
 fun hsame=>Nat.lt_irrefl _ (h.text _ hsame).1

theorem Bracketed.pushed (h:Bracketed s) {events:List ReducerEvent} {next:ℕ} {opened:ℕ → Option BlockKind}
  (hread:Blocks.readAll ⟨s.nextBlockIndex,openKind s⟩ (bracketsOf events) = some ⟨next,opened⟩) :
  Blocks.none.readAll (bracketsOf (s.out++events))=some ⟨next,opened⟩:=by
 rw [bracketsOf_append]
 exact Blocks.readAll_then h.reads hread

theorem Bracketed.unfinished_append (h:Bracketed s) {events:List ReducerEvent}
  (hevents:∀ event∈events,(bracketOf event).isSome=true) : ∀ event∈s.out++events,(bracketOf event).isSome=true:=by
 intro event hmem
 rcases List.mem_append.mp hmem with hmem | hmem
 · exact h.unfinished event hmem
 · exact hevents event hmem

theorem Bracketed.closeThinking (h:Bracketed s) : Bracketed s.closeThinking:=by
 unfold ReducerState.closeThinking
 cases hcase:s.thinkingIndex with
 | none=>exact h
 | some index=>
  obtain ⟨hless,htext,hslots⟩:=h.thinking index hcase
  refine ⟨?_,h.unfinished_append (by simp [bracketOf]),nofun,h.text,h.slots,h.nodup⟩
  refine h.pushed (Blocks.readAll_single ?_)
  have hopen:openKind s index=some .thinking:=if_pos hcase
  rw [Blocks.read_stop hopen]
  refine congrArg some (Blocks.ext rfl (funext fun other=>?_))
  unfold openKind
  dsimp only
  by_cases hother:other=index
  · rw [hother,Function.update_self,if_neg htext,hslots]
    rfl
  · have hstill:¬s.thinkingIndex=some other:=by
     rw [hcase]
     exact fun hsame=>hother (Option.some.inj hsame).symm
    rw [Function.update_of_ne hother,if_neg hstill]
    rfl

theorem Bracketed.closeText (h:Bracketed s) : Bracketed s.closeText:=by
 unfold ReducerState.closeText
 cases hcase:s.textIndex with
 | none=>exact h
 | some index=>
  obtain ⟨hless,hslots⟩:=h.text index hcase
  have hthinking:¬s.thinkingIndex=some index :=
   fun hsame=>(h.thinking index hsame).2.1 hcase
  refine ⟨?_,h.unfinished_append (by simp [bracketOf]),fun other hother=>?_,nofun,h.slots,
   h.nodup⟩
  · refine h.pushed (Blocks.readAll_single ?_)
    have hopen:openKind s index=some .text:=by
     unfold openKind
     rw [if_neg hthinking,if_pos hcase]
    rw [Blocks.read_stop hopen]
    refine congrArg some (Blocks.ext rfl (funext fun other=>?_))
    unfold openKind
    dsimp only
    by_cases hother:other=index
    · rw [hother,Function.update_self,if_neg hthinking,hslots]
      rfl
    · have hstill:¬s.textIndex=some other:=by
       rw [hcase]
       exact fun hsame=>hother (Option.some.inj hsame).symm
      rw [Function.update_of_ne hother,if_neg hstill]
      rfl
  · obtain ⟨hless',-,hslots'⟩:=h.thinking other hother
    exact ⟨hless',nofun,hslots'⟩

theorem Bracketed.readReasoning (h:Bracketed s) (text:String) : Bracketed (s.readReasoning text):=by
 unfold ReducerState.readReasoning
 cases hcase:s.thinkingIndex with
 | some index=>
  refine ⟨?_,h.unfinished_append (by simp [bracketOf]),fun other hother=>?_,h.text,h.slots,
   h.nodup⟩
  · refine h.pushed (Blocks.readAll_single ?_)
    have hopen:openKind s index=some .thinking:=if_pos hcase
    rw [Blocks.read_delta hopen]
    refine congrArg some (Blocks.ext rfl (funext fun other=>?_))
    unfold openKind
    dsimp only
    rw [hcase]
  · exact h.thinking other (hcase ▸ hother)
 | none=>
  refine ⟨?_,h.unfinished_append (by simp [bracketOf]),fun index hindex=>?_,
   fun index hindex=>?_,fun slot hslot=>Nat.lt_succ_of_lt (h.slots slot hslot),h.nodup⟩
  · refine h.pushed (Blocks.readAll_then (Blocks.readAll_single (Blocks.read_start _ _)) (Blocks.readAll_single ?_))
    rw [Blocks.read_delta (Function.update_self _ _ _)]
    refine congrArg some (Blocks.ext rfl (funext fun other=>?_))
    unfold openKind
    dsimp only
    rw [hcase]
    by_cases hother:other=s.nextBlockIndex
    · rw [hother,Function.update_self,if_pos rfl]
    · rw [Function.update_of_ne hother,if_neg nofun,if_neg fun hsame=>hother (Option.some.inj hsame).symm]
  · obtain rfl:=Option.some.inj hindex
    exact ⟨Nat.lt_succ_self _,h.text_free,h.slot_free⟩
  · obtain ⟨hless,hslots⟩:=h.text index hindex
    exact ⟨Nat.lt_succ_of_lt hless,hslots⟩

theorem closeThinking_none (s:ReducerState) : s.closeThinking.thinkingIndex=none:=by
 unfold ReducerState.closeThinking
 cases hcase:s.thinkingIndex with
 | none=>exact hcase
 | some index=>rfl

theorem Bracketed.readContent (h:Bracketed s) (text:String) : Bracketed (s.readContent text):=by
 have hclosed:=h.closeThinking
 have hnone:=closeThinking_none s
 unfold ReducerState.readContent
 dsimp only
 generalize s.closeThinking=c at hclosed hnone ⊢
 have hthinking:∀ index,¬c.thinkingIndex=some index:=by
  intro index hsome
  rw [hnone] at hsome
  exact (nomatch hsome)
 cases hcase:c.textIndex with
 | some index=>
  refine ⟨?_,hclosed.unfinished_append (by simp [bracketOf]),
   fun other hother=>absurd hother (hthinking other),fun other hother=>?_,hclosed.slots,
   hclosed.nodup⟩
  · refine hclosed.pushed (Blocks.readAll_single ?_)
    have hopen:openKind c index=some .text:=by
     unfold openKind
     rw [if_neg (hthinking index),if_pos hcase]
    rw [Blocks.read_delta hopen]
    refine congrArg some (Blocks.ext rfl (funext fun other=>?_))
    unfold openKind
    dsimp only
    rw [hcase]
  · exact hclosed.text other (hcase ▸ hother)
 | none=>
  refine ⟨?_,hclosed.unfinished_append (by simp [bracketOf]),
   fun other hother=>absurd hother (hthinking other),fun index hindex=>?_,
   fun slot hslot=>Nat.lt_succ_of_lt (hclosed.slots slot hslot),hclosed.nodup⟩
  · refine hclosed.pushed (Blocks.readAll_then (Blocks.readAll_single (Blocks.read_start _ _))
     (Blocks.readAll_single ?_))
    rw [Blocks.read_delta (Function.update_self _ _ _)]
    refine congrArg some (Blocks.ext rfl (funext fun other=>?_))
    unfold openKind
    dsimp only
    rw [hcase,if_neg (hthinking other)]
    by_cases hother:other=c.nextBlockIndex
    · rw [hother,Function.update_self,if_pos rfl]
    · rw [Function.update_of_ne hother,if_neg (hthinking other),if_neg nofun,
       if_neg fun hsame=>hother (Option.some.inj hsame).symm]
  · obtain rfl:=Option.some.inj hindex
    exact ⟨Nat.lt_succ_self _,hclosed.slot_free⟩

theorem Bracketed.pushArguments (h:Bracketed s) {index:ℕ} (tc:StreamToolCall)
  (hopen:openKind s index=some .tool) : Bracketed (s.pushArguments index tc):=by
 unfold ReducerState.pushArguments
 split_ifs
 · exact h
 · refine ⟨?_,h.unfinished_append (by simp [bracketOf]),h.thinking,h.text,h.slots,h.nodup⟩
   refine h.pushed (Blocks.readAll_single ?_)
   rw [Blocks.read_delta hopen]
   rfl

theorem Bracketed.readToolCall (h:Bracketed s) (hthinking:s.thinkingIndex=none)
  (htext:s.textIndex=none) (tc:StreamToolCall) :
  Bracketed (s.readToolCall tc) ∧ (s.readToolCall tc).thinkingIndex=none ∧ (s.readToolCall tc).textIndex=none:=by
 have hkept:∀ (c:ReducerState) (index:ℕ),(c.pushArguments index tc).thinkingIndex =
   c.thinkingIndex ∧ (c.pushArguments index tc).textIndex=c.textIndex:=by
  intro c index
  unfold ReducerState.pushArguments
  split_ifs <;> exact ⟨rfl,rfl⟩
 unfold ReducerState.readToolCall
 cases hfind:s.toolSlots.find? fun slot=>slot.blockIndex=tc.index with
 | some slot=>
  dsimp only
  obtain ⟨hthinking',htext'⟩:=hkept s slot.blockIndex
  refine ⟨h.pushArguments tc ?_,hthinking'.trans hthinking,htext'.trans htext⟩
  have hany:(s.toolSlots.any fun other=>other.blockIndex=slot.blockIndex)=true :=
   List.any_eq_true.mpr ⟨slot,List.mem_of_find?_eq_some hfind,decide_eq_true rfl⟩
  unfold openKind
  rw [hthinking,htext,hany]
  rfl
 | none=>
  dsimp only
  split_ifs
  · exact ⟨h,hthinking,htext⟩
  · have hnew:∀ index,openKind { s with
      sawToolCalls := true
      nextBlockIndex := s.nextBlockIndex+1
      toolSlots := s.toolSlots++[⟨s.nextBlockIndex,tc.idText,tc.nameText⟩]
      out := s.out++[.toolStart s.nextBlockIndex tc.idText tc.nameText] } index =
      Function.update (openKind s) s.nextBlockIndex (some .tool) index:=by
     intro index
     unfold openKind
     dsimp only
     rw [hthinking,htext,List.any_append]
     by_cases hindex:index=s.nextBlockIndex
     · rw [hindex,Function.update_self]
       simp
     · rw [Function.update_of_ne hindex]
       simp [Ne.symm hindex]
    obtain ⟨hthinking',htext'⟩:=hkept { s with
      sawToolCalls := true
      nextBlockIndex := s.nextBlockIndex+1
      toolSlots := s.toolSlots++[⟨s.nextBlockIndex,tc.idText,tc.nameText⟩]
      out := s.out++[.toolStart s.nextBlockIndex tc.idText tc.nameText] } s.nextBlockIndex
    refine ⟨Bracketed.pushArguments ?_ tc ?_,hthinking'.trans hthinking,htext'.trans htext⟩
    · refine ⟨?_,h.unfinished_append (by simp [bracketOf]),
       fun index hindex=>?_,fun index hindex=>?_,fun slot hslot=>?_,?_⟩
      · refine h.pushed (Blocks.readAll_single ?_)
        rw [Blocks.read_start]
        exact congrArg some (Blocks.ext rfl (funext fun index=>(hnew index).symm))
      · exact absurd (hthinking.symm.trans hindex) nofun
      · exact absurd (htext.symm.trans hindex) nofun
      · rcases List.mem_append.mp hslot with hslot | hslot
        · exact Nat.lt_succ_of_lt (h.slots slot hslot)
        · obtain rfl:=List.mem_singleton.mp hslot
          exact Nat.lt_succ_self _
      · rw [List.map_append]
        refine List.Nodup.append h.nodup (List.nodup_singleton _) ?_
        intro index hold hsingle
        obtain rfl:=List.mem_singleton.mp hsingle
        obtain ⟨slot,hslot,hindex⟩:=List.mem_map.mp hold
        have hless:=h.slots slot hslot
        dsimp only at hindex
        omega
    · rw [hnew,Function.update_self]

theorem Bracketed.calls (toolCalls:List StreamToolCall) : ∀ {s:ReducerState},Bracketed s →
  s.thinkingIndex=none → s.textIndex=none → Bracketed (toolCalls.foldl ReducerState.readToolCall s):=by
 induction toolCalls with
 | nil=>exact fun h _ _=>h
 | cons tc toolCalls ih=>
  intro s h hthinking htext
  obtain ⟨hread,hthinking',htext'⟩:=h.readToolCall hthinking htext tc
  exact ih hread hthinking' htext'

theorem closeText_none (s:ReducerState) : s.closeText.textIndex=none ∧ s.closeText.thinkingIndex=s.thinkingIndex:=by
 unfold ReducerState.closeText
 cases hcase:s.textIndex with
 | none=>exact ⟨hcase,rfl⟩
 | some index=>exact ⟨rfl,rfl⟩

theorem Bracketed.nonempty {read:ReducerState → String → ReducerState}
  (hread:∀ {c:ReducerState},Bracketed c → ∀ text,Bracketed (read c text))
  (h:Bracketed s) (text:Option String) : Bracketed (match text with
   | some text=>if text.isEmpty then s else read s text
   | none=>s):=by
 cases text with
 | none=>exact h
 | some text=>
  dsimp only
  split_ifs
  · exact h
  · exact hread h text

theorem Bracketed.readDelta (h:Bracketed s) (delta:StreamDelta) : Bracketed (s.readDelta delta):=by
 have hreasoning:=h.nonempty (fun h text=>h.readReasoning text) delta.reasoningContent
 have hcontent:=hreasoning.nonempty (fun h text=>h.readContent text) delta.content
 unfold ReducerState.readDelta
 dsimp only
 cases delta.toolCalls with
 | none=>exact hcontent
 | some toolCalls=>
  dsimp only
  by_cases hempty:toolCalls.isEmpty=true
  · rw [if_pos hempty]
    exact hcontent
  · rw [if_neg hempty]
    have hclosed:=hcontent.closeThinking.closeText
    refine Bracketed.calls toolCalls hclosed ?_ ?_
    · exact (closeText_none _).2.trans (closeThinking_none _)
    · exact (closeText_none _).1

theorem Bracketed.readFinish (h:Bracketed s) (chunk:StreamChunk) (choice:StreamChoice) :
  Bracketed (s.readFinish chunk choice):=by
 unfold ReducerState.readFinish
 cases choice.finishReason with
 | none=>exact h
 | some reason=>exact ⟨h.reads,h.unfinished,h.thinking,h.text,h.slots,h.nodup⟩

theorem Bracketed.readChunk (h:Bracketed s) (chunk:StreamChunk) : Bracketed (s.readChunk chunk):=by
 unfold ReducerState.readChunk
 split_ifs
 · exact ⟨h.reads,h.unfinished,h.thinking,h.text,h.slots,h.nodup⟩
 · cases (chunk.choices.getD []).head? with
   | none=>exact h
   | some choice=>
    dsimp only
    cases choice.delta with
    | none=>exact h.readFinish chunk choice
    | some delta=>exact (h.readDelta delta).readFinish chunk choice

theorem bracketed_new : Bracketed .new :=
 ⟨rfl,nofun,nofun,nofun,nofun,List.nodup_nil⟩

theorem bracketed_run (chunks:List StreamChunk) (h:Bracketed s) :
  Bracketed (chunks.foldl ReducerState.readChunk s):=by
 induction chunks generalizing s with
 | nil=>exact h
 | cons chunk chunks ih=>exact ih (h.readChunk chunk)

end steps

theorem reduceChunks_ok (chunks:List StreamChunk) (s:ReducerState)
  {events:List ReducerEvent} (h:reduceChunks s chunks=.ok events) :
  events=(chunks.foldl ReducerState.readChunk s).finishStream:=by
 induction chunks generalizing s with
 | nil=>exact (Except.ok.inj h).symm
 | cons chunk chunks ih=>
  unfold reduceChunks at h
  cases herror:chunk.error with
  | some message=>
   rw [herror] at h
   cases h
  | none=>
   rw [herror] at h
   exact ih _ h

theorem stops_read (slots:List ToolSlot) : ∀ (next:ℕ) (opened:ℕ → Option BlockKind),
  (slots.map ToolSlot.blockIndex).Nodup →
  (∀ index,opened index = if slots.any fun slot=>slot.blockIndex=index then some .tool else none) →
  Blocks.readAll ⟨next,opened⟩
   (bracketsOf (slots.map fun slot=>.toolStop slot.blockIndex)) =
    some ⟨next,fun _=>none⟩:=by
 induction slots with
 | nil=>
  intro next opened _ hopened
  exact congrArg some (Blocks.ext rfl (funext hopened))
 | cons slot slots ih=>
  intro next opened hnodup hopened
  rw [List.map_cons,List.nodup_cons] at hnodup
  have hopen:opened slot.blockIndex=some .tool:=by
   rw [hopened,List.any_cons,decide_eq_true rfl]
   rfl
  have hothers:(slots.any fun other=>other.blockIndex=slot.blockIndex)=false:=by
   rw [List.any_eq_false]
   intro other hother hsame
   exact hnodup.1 (List.mem_map.mpr ⟨other,hother,of_decide_eq_true hsame⟩)
  change Blocks.readAll ⟨next,opened⟩ (.stop slot.blockIndex .tool ::
   bracketsOf (slots.map fun slot=>.toolStop slot.blockIndex))=_
  unfold Blocks.readAll
  rw [List.foldlM_cons,Blocks.read_stop hopen]
  refine ih next _ hnodup.2 fun index=>?_
  dsimp only
  by_cases hindex:index=slot.blockIndex
  · rw [hindex,Function.update_self,hothers]
    rfl
  · rw [Function.update_of_ne hindex,hopened,List.any_cons,
     decide_eq_false (Ne.symm hindex),Bool.false_or]

def bodyOf (s:ReducerState) : List ReducerEvent :=
 s.closeThinking.closeText.out ++ s.closeThinking.closeText.toolSlots.map fun slot=>.toolStop slot.blockIndex

theorem Bracketed.body {s:ReducerState} (h:Bracketed s) :
  Balanced (bracketsOf (bodyOf s)) ∧ ∀ event∈bodyOf s,(bracketOf event).isSome=true:=by
 have hclosed:=h.closeThinking.closeText
 obtain ⟨htext,hthinking⟩:=closeText_none s.closeThinking
 rw [closeThinking_none] at hthinking
 unfold bodyOf
 generalize s.closeThinking.closeText=c at hclosed htext hthinking ⊢
 constructor
 · refine ⟨c.nextBlockIndex,hclosed.pushed (stops_read _ _ _ hclosed.nodup fun index=>?_)⟩
   unfold openKind
   rw [hthinking,htext]
   rfl
 · refine hclosed.unfinished_append fun event hmem=>?_
   obtain ⟨slot,-,rfl⟩:=List.mem_map.mp hmem
   rfl

theorem finishStream_eq (s:ReducerState) : s.finishStream=bodyOf s ++
  [.finish (if s.finishReason=some "length" then .maxTokens
   else if s.finishReason=some "tool_calls" then .toolUse
   else if s.sawToolCalls then .toolUse else .endTurn) s.finalUsage]:=by
 have hsame:s.closeThinking.closeText.finishReason=s.finishReason ∧
   s.closeThinking.closeText.sawToolCalls=s.sawToolCalls ∧ s.closeThinking.closeText.finalUsage=s.finalUsage:=by
  unfold ReducerState.closeText ReducerState.closeThinking
  cases s.thinkingIndex <;> cases s.textIndex <;> exact ⟨rfl,rfl,rfl⟩
 rfl

def thinkingText (events:List ReducerEvent) : Text := events.flatMap fun event=>match event with
 | .thinkingDelta _ text=>text.toList
 | _=>[]

def contentText (events:List ReducerEvent) : Text := events.flatMap fun event=>match event with
 | .textDelta _ text=>text.toList
 | _=>[]

def isToolStart : ReducerEvent → Bool
 | .toolStart _ _ _=>true
 | _=>false

def firstDelta (chunk:StreamChunk) : Option StreamDelta :=
 (chunk.choices.getD []).head?.bind StreamChoice.delta

def reasoningOf (chunk:StreamChunk) : Text :=
 (((firstDelta chunk).bind StreamDelta.reasoningContent).getD "").toList

def contentOfChunk (chunk:StreamChunk) : Text :=
 (((firstDelta chunk).bind StreamDelta.content).getD "").toList

def finishReasonOf (chunk:StreamChunk) : Option String :=
 (chunk.choices.getD []).head?.bind StreamChoice.finishReason

def lastFinish (chunks:List StreamChunk) : Option String :=
 (chunks.filterMap finishReasonOf).getLast?

structure Tells (s:ReducerState) (reasoning content:Text) (reason:Option String) : Prop where
 thinking : thinkingText s.out=reasoning
 content : contentText s.out=content
 tools : s.sawToolCalls=s.out.any isToolStart
 reason : s.finishReason=reason

section telling
variable {s:ReducerState} {reasoning content:Text} {reason:Option String}

theorem Tells.push (h:Tells s reasoning content reason) {s':ReducerState}
  (events:List ReducerEvent) (hout:s'.out=s.out++events)
  (hsaw:s'.sawToolCalls=(s.sawToolCalls||events.any isToolStart)) (hreason:s'.finishReason=s.finishReason) :
  Tells s' (reasoning++thinkingText events) (content++contentText events) reason where
 thinking:=by
  rw [hout,← h.thinking]
  exact List.flatMap_append
 content:=by
  rw [hout,← h.content]
  exact List.flatMap_append
 tools := by rw [hsaw,hout,List.any_append,h.tools]
 reason := hreason.trans h.reason

theorem Tells.quiet (h:Tells s reasoning content reason) {s':ReducerState}
  (events:List ReducerEvent) (hout:s'.out=s.out++events)
  (hsaw:s'.sawToolCalls=(s.sawToolCalls||events.any isToolStart))
  (hreason:s'.finishReason=s.finishReason) (hthinking:thinkingText events=[])
  (hcontent:contentText events=[]) : Tells s' reasoning content reason:=by
 have hpush:=h.push events hout hsaw hreason
 rw [hthinking,hcontent,List.append_nil,List.append_nil] at hpush
 exact hpush

theorem Tells.closeThinking (h:Tells s reasoning content reason) : Tells s.closeThinking reasoning content reason:=by
 unfold ReducerState.closeThinking
 cases s.thinkingIndex with
 | none=>exact h
 | some index=>exact h.quiet [.thinkingStop index] rfl (Bool.or_false _).symm rfl rfl rfl

theorem Tells.closeText (h:Tells s reasoning content reason) : Tells s.closeText reasoning content reason:=by
 unfold ReducerState.closeText
 cases s.textIndex with
 | none=>exact h
 | some index=>exact h.quiet [.textStop index] rfl (Bool.or_false _).symm rfl rfl rfl

theorem Tells.readReasoning (h:Tells s reasoning content reason) (text:String) :
  Tells (s.readReasoning text) (reasoning++text.toList) content reason:=by
 unfold ReducerState.readReasoning
 cases s.thinkingIndex with
 | some index=>
  have hpush:Tells { s with
    thinkingIndex := some index
    out := s.out++[.thinkingDelta index text] } _ _ _ :=
   h.push [.thinkingDelta index text] rfl (Bool.or_false _).symm rfl
  simpa [thinkingText,contentText] using hpush
 | none=>
  have hpush:Tells { s with
    thinkingIndex := some s.nextBlockIndex
    nextBlockIndex := s.nextBlockIndex+1
    out := s.out ++ [.thinkingStart s.nextBlockIndex,.thinkingDelta s.nextBlockIndex text] } _ _ _ :=
   h.push [.thinkingStart s.nextBlockIndex,.thinkingDelta s.nextBlockIndex text] rfl (Bool.or_false _).symm rfl
  simpa [thinkingText,contentText] using hpush

theorem Tells.readContent (h:Tells s reasoning content reason) (text:String) :
  Tells (s.readContent text) reasoning (content++text.toList) reason:=by
 have hclosed:=h.closeThinking
 unfold ReducerState.readContent
 dsimp only
 generalize s.closeThinking=c at hclosed ⊢
 cases c.textIndex with
 | some index=>
  have hpush:Tells { c with
    textIndex := some index
    out := c.out++[.textDelta index text] } _ _ _ :=
   hclosed.push [.textDelta index text] rfl (Bool.or_false _).symm rfl
  simpa [thinkingText,contentText] using hpush
 | none=>
  have hpush:Tells { c with
    textIndex := some c.nextBlockIndex
    nextBlockIndex := c.nextBlockIndex+1
    out := c.out++[.textStart c.nextBlockIndex,.textDelta c.nextBlockIndex text] } _ _ _ :=
   hclosed.push [.textStart c.nextBlockIndex,.textDelta c.nextBlockIndex text] rfl (Bool.or_false _).symm rfl
  simpa [thinkingText,contentText] using hpush

theorem Tells.pushArguments (h:Tells s reasoning content reason) (index:ℕ)
  (tc:StreamToolCall) : Tells (s.pushArguments index tc) reasoning content reason:=by
 unfold ReducerState.pushArguments
 split_ifs
 · exact h
 · exact h.quiet [.toolDelta index tc.argumentsText] rfl (Bool.or_false _).symm rfl rfl rfl

theorem Tells.readToolCall (h:Tells s reasoning content reason) (tc:StreamToolCall) :
  Tells (s.readToolCall tc) reasoning content reason:=by
 unfold ReducerState.readToolCall
 cases s.toolSlots.find? fun slot=>slot.blockIndex=tc.index with
 | some slot=>exact h.pushArguments slot.blockIndex tc
 | none=>
  dsimp only
  split_ifs
  · exact h
  · refine Tells.pushArguments ?_ s.nextBlockIndex tc
    exact h.quiet [.toolStart s.nextBlockIndex tc.idText tc.nameText] rfl (Bool.or_true _).symm rfl rfl rfl

theorem Tells.calls (toolCalls:List StreamToolCall) : ∀ {s:ReducerState},
  Tells s reasoning content reason →
   Tells (toolCalls.foldl ReducerState.readToolCall s) reasoning content reason:=by
 induction toolCalls with
 | nil=>exact fun h=>h
 | cons tc toolCalls ih=>exact fun h=>ih (h.readToolCall tc)

theorem Tells.readDelta (h:Tells s reasoning content reason) (delta:StreamDelta) :
  Tells (s.readDelta delta) (reasoning++(delta.reasoningContent.getD "").toList)
   (content++(delta.content.getD "").toList) reason:=by
 have hreasoning:Tells (match delta.reasoningContent with
   | some reasoning=>if reasoning.isEmpty then s else s.readReasoning reasoning
   | none=>s) (reasoning++(delta.reasoningContent.getD "").toList) content reason:=by
  cases delta.reasoningContent with
  | none=>simpa using h
  | some text=>
   dsimp only
   split_ifs with hempty
   · rw [String.isEmpty_iff.mp hempty]
     simpa using h
   · exact h.readReasoning text
 have hcontent:∀ {c:ReducerState} {reasoning:Text},Tells c reasoning content reason → Tells (match delta.content with
       | some content=>if content.isEmpty then c else c.readContent content
       | none=>c) reasoning (content++(delta.content.getD "").toList) reason:=by
  intro c reasoning h
  cases delta.content with
  | none=>simpa using h
  | some text=>
   dsimp only
   split_ifs with hempty
   · rw [String.isEmpty_iff.mp hempty]
     simpa using h
   · exact h.readContent text
 have hboth:=hcontent hreasoning
 unfold ReducerState.readDelta
 dsimp only
 cases delta.toolCalls with
 | none=>exact hboth
 | some toolCalls=>
  dsimp only
  by_cases hempty:toolCalls.isEmpty=true
  · rw [if_pos hempty]
    exact hboth
  · rw [if_neg hempty]
    exact Tells.calls toolCalls hboth.closeThinking.closeText

theorem Tells.readFinish (h:Tells s reasoning content reason) (chunk:StreamChunk) (choice:StreamChoice) :
  Tells (s.readFinish chunk choice) reasoning content (choice.finishReason.or reason):=by
 unfold ReducerState.readFinish
 cases choice.finishReason with
 | none=>exact h
 | some said=>exact ⟨h.thinking,h.content,h.tools,rfl⟩

theorem Tells.readChunk (h:Tells s reasoning content reason) (chunk:StreamChunk) :
  Tells (s.readChunk chunk) (reasoning++reasoningOf chunk) (content++contentOfChunk chunk)
   ((finishReasonOf chunk).or reason):=by
 unfold ReducerState.readChunk reasoningOf contentOfChunk finishReasonOf firstDelta
 split_ifs with husage
 · have hnone:(chunk.choices.getD []).head?=none :=
    List.head?_eq_none_iff.mpr (List.isEmpty_iff.mp (Bool.and_eq_true_iff.mp husage).2)
   rw [hnone]
   refine ⟨?_,?_,h.tools,h.reason⟩
   · simpa using h.thinking
   · simpa using h.content
 · cases (chunk.choices.getD []).head? with
   | none=>simpa using h
   | some choice=>
    dsimp only [Option.bind_some]
    cases choice.delta with
    | none=>simpa using h.readFinish chunk choice
    | some delta=>exact (h.readDelta delta).readFinish chunk choice

theorem tells_run (chunks:List StreamChunk) : ∀ {s:ReducerState} {reasoning content:Text}
  {reason:Option String},Tells s reasoning content reason →
   Tells (chunks.foldl ReducerState.readChunk s) (reasoning++chunks.flatMap reasoningOf)
    (content++chunks.flatMap contentOfChunk) ((lastFinish chunks).or reason):=by
 induction chunks with
 | nil=>
  intro s reasoning content reason h
  simpa [lastFinish] using h
 | cons chunk chunks ih=>
  intro s reasoning content reason h
  have hrest:=ih (h.readChunk chunk)
  rw [List.foldl_cons,List.flatMap_cons,List.flatMap_cons,← List.append_assoc,← List.append_assoc]
  have hlast:(lastFinish (chunk::chunks)).or reason = (lastFinish chunks).or ((finishReasonOf chunk).or reason):=by
   unfold lastFinish
   rw [List.filterMap_cons]
   cases finishReasonOf chunk with
   | none=>rfl
   | some said=>
    dsimp only
    rw [List.getLast?_cons]
    cases (chunks.filterMap finishReasonOf).getLast? <;> rfl
  rw [hlast]
  exact hrest

theorem Tells.body (h:Tells s reasoning content reason) :
  thinkingText (bodyOf s)=reasoning ∧ contentText (bodyOf s)=content ∧ s.sawToolCalls=(bodyOf s).any isToolStart:=by
 have hclosed:=h.closeThinking.closeText
 have hsaw:s.closeThinking.closeText.sawToolCalls=s.sawToolCalls:=by
  unfold ReducerState.closeText ReducerState.closeThinking
  cases s.thinkingIndex <;> cases s.textIndex <;> rfl
 rw [← hsaw]
 unfold bodyOf
 generalize s.closeThinking.closeText=c at hclosed ⊢
 have hstops:thinkingText (c.toolSlots.map fun slot=>.toolStop slot.blockIndex)=[] ∧
   contentText (c.toolSlots.map fun slot=>.toolStop slot.blockIndex)=[] ∧
   (c.toolSlots.map fun slot=>ReducerEvent.toolStop slot.blockIndex).any isToolStart =
    false:=by
  refine ⟨?_,?_,?_⟩
  · exact List.flatMap_eq_nil_iff.mpr fun event hmem=>by
     obtain ⟨slot,-,rfl⟩:=List.mem_map.mp hmem
     rfl
  · exact List.flatMap_eq_nil_iff.mpr fun event hmem=>by
     obtain ⟨slot,-,rfl⟩:=List.mem_map.mp hmem
     rfl
  · rw [List.any_map]
    exact List.any_eq_false.mpr fun _ _=>Bool.false_ne_true
 have hall:Tells { c with
   out := c.out++c.toolSlots.map fun slot=>.toolStop slot.blockIndex } _ _ _ :=
  hclosed.quiet (c.toolSlots.map fun slot=>.toolStop slot.blockIndex) rfl
   (by rw [hstops.2.2,Bool.or_false]) rfl hstops.1 hstops.2.1
 exact ⟨hall.thinking,hall.content,hall.tools⟩

end telling

def isBlockEvent : StreamEvent → Bool
 | .contentBlockStart _ _=>true
 | .contentBlockDelta _ _=>true
 | .contentBlockStop _=>true
 | _=>false

/-- One start of the message comes first, one delta and one stop of it last. -/
def Framed (messageId model:String) (stream:List StreamEvent) : Prop :=
 ∃ blocks reason usage,stream =
  .messageStart messageId model::blocks++[.messageDelta reason usage,.messageStop] ∧
   ∀ event∈blocks,isBlockEvent event=true

/-- What an event adds to a message that has started. -/
def partsOf (renv:RenderEnv) (messageId:String) : ReducerEvent → List StreamEvent
 | .thinkingStart index=>[.contentBlockStart index .thinking]
 | .thinkingDelta index text=>[.contentBlockDelta index (.thinkingDelta text)]
 | .thinkingStop index=>
  [.contentBlockDelta index (.signatureDelta (renv.makeThinkingSignature messageId index)),
   .contentBlockStop index]
 | .textStart index=>[.contentBlockStart index .text]
 | .textDelta index text=>[.contentBlockDelta index (.textDelta text)]
 | .textStop index=>[.contentBlockStop index]
 | .toolStart index id name=>[.contentBlockStart index (.toolUse id name)]
 | .toolDelta index partialJson=>[.contentBlockDelta index (.inputJsonDelta partialJson)]
 | .toolStop index=>[.contentBlockStop index]
 | .finish stopReason usage=>
  [.messageDelta (stopReasonText stopReason) (mapUsageToAnthropic usage),.messageStop]

theorem render_started (renv:RenderEnv) (messageId model:String) (events:List ReducerEvent) :
  ∀ out:List StreamEvent,events.foldl (StreamState.render renv messageId model) ⟨out,true⟩ =
   ⟨out++events.flatMap (partsOf renv messageId),true⟩:=by
 induction events with
 | nil=>exact fun out=>congrArg (StreamState.mk · true) (List.append_nil out).symm
 | cons event events ih=>
  intro out
  have hone:StreamState.render renv messageId model ⟨out,true⟩ event = ⟨out++partsOf renv messageId event,true⟩:=by
   cases event <;> rfl
  rw [List.foldl_cons,hone,ih,List.flatMap_cons,List.append_assoc]

theorem renderAll_eq (renv:RenderEnv) (messageId model:String) {body:List ReducerEvent}
  (hbalanced:Balanced (bracketsOf body)) (stopReason:StopReason) (usage:Option KimiUsage) :
  renderAll renv messageId model (body++[.finish stopReason usage]) =
   .messageStart messageId model ::
    (body++[ReducerEvent.finish stopReason usage]).flatMap (partsOf renv messageId):=by
 have hfirst:∀ event rest,body++[.finish stopReason usage]=event::rest →
   StreamState.render renv messageId model ⟨[],false⟩ event =
    StreamState.render renv messageId model ⟨[.messageStart messageId model],true⟩ event:=by
  intro event rest heq
  cases body with
  | nil=>
   obtain ⟨rfl,-⟩:=List.cons.inj heq
   rfl
  | cons first body=>
   obtain ⟨rfl,-⟩:=List.cons.inj heq
   obtain ⟨count,hread⟩:=hbalanced
   have hstop:∀ index kind rest,Blocks.none.readAll
     (.stop index kind::rest : List (Bracket BlockKind))=none := fun _ _ _=>rfl
   cases first with
   | thinkingStop index=>exact (nomatch (hstop index .thinking _).symm.trans hread)
   | textStop index=>exact (nomatch (hstop index .text _).symm.trans hread)
   | toolStop index=>exact (nomatch (hstop index .tool _).symm.trans hread)
   | _=>rfl
 unfold renderAll
 cases hevents:body++[ReducerEvent.finish stopReason usage] with
 | nil=>exact absurd (List.append_eq_nil_iff.mp hevents).2 (List.cons_ne_nil _ _)
 | cons event rest=>
  rw [List.foldl_cons,hfirst event rest hevents,← List.foldl_cons,render_started]
  rfl

theorem render_body (renv:RenderEnv) (messageId model:String) {body:List ReducerEvent}
  (hbody:∀ event∈body,(bracketOf event).isSome=true)
  (hbalanced:Balanced (bracketsOf body)) (stopReason:StopReason) (usage:Option KimiUsage) :
  Framed messageId model (renderAll renv messageId model (body++[.finish stopReason usage])):=by
 rw [renderAll_eq renv messageId model hbalanced,List.flatMap_append]
 refine ⟨body.flatMap (partsOf renv messageId),stopReasonText stopReason,
  mapUsageToAnthropic usage,rfl,fun part hmem=>?_⟩
 obtain ⟨event,hevent,hpart⟩:=List.mem_flatMap.mp hmem
 have hblock:∀ part∈partsOf renv messageId event,isBlockEvent part=true:=by
  cases event with
  | finish stopReason usage=>exact (nomatch hbody _ hevent)
  | thinkingStop index=>simp [partsOf,isBlockEvent]
  | _=>simp [partsOf,isBlockEvent]
 exact hblock part hpart

structure WellFormed (chunks:List StreamChunk) (messageId model:String)
  (events:List ReducerEvent) (stream:List StreamEvent) : Prop where
 body : ∃ body stopReason usage,events=body++[.finish stopReason usage] ∧
  (∀ event∈body,(bracketOf event).isSome=true) ∧ Balanced (bracketsOf body)
 numbered : ∃ count,starts (bracketsOf events)=List.range count
 framed : Framed messageId model stream
 thinking : thinkingText events=chunks.flatMap reasoningOf
 content : contentText events=chunks.flatMap contentOfChunk
 reason : ∀ stopReason usage, .finish stopReason usage∈events →
  (stopReason=.maxTokens ↔ lastFinish chunks=some "length") ∧
  (stopReason=.toolUse ↔ lastFinish chunks≠some "length" ∧
   (lastFinish chunks=some "tool_calls" ∨ events.any isToolStart=true))

theorem stopReason_iff (reason:Option String) (saw:Bool) {stopReason:StopReason}
  (h:stopReason=if reason=some "length" then .maxTokens
   else if reason=some "tool_calls" then .toolUse
   else if saw then .toolUse else .endTurn) :
  (stopReason=.maxTokens ↔ reason=some "length") ∧
   (stopReason=.toolUse ↔ reason≠some "length" ∧ (reason=some "tool_calls" ∨ saw=true)):=by
 subst h
 split_ifs with hlength hcalls hsaw
 · exact ⟨iff_of_true rfl hlength,iff_of_false nofun fun hboth=>hboth.1 hlength⟩
 · exact ⟨iff_of_false nofun hlength,iff_of_true rfl ⟨hlength,Or.inl hcalls⟩⟩
 · exact ⟨iff_of_false nofun hlength,iff_of_true rfl ⟨hlength,Or.inr hsaw⟩⟩
 · exact ⟨iff_of_false nofun hlength,iff_of_false nofun fun hboth=>
    hboth.2.elim hcalls hsaw⟩

/-- Every stream that the reducer accepts becomes one well-bracketed message. -/
theorem kimi_message_well_formed (env:KimiEnv) (renv:RenderEnv) (input:List UInt8)
    (messageId model:String) (events:List ReducerEvent)
    (h:reduceUpstreamBytes env input=.ok events) : ∃ stream,
      translateStreamBytes env renv input messageId model=.ok stream ∧
        WellFormed (chunksOf env input) messageId model events stream:=by
  have hevents:=reduceChunks_ok _ _ h
  have hbracketed:=bracketed_run (chunksOf env input) bracketed_new
  have htells:=tells_run (chunksOf env input) (⟨rfl,rfl,rfl,rfl⟩ : Tells .new [] [] none)
  generalize (chunksOf env input).foldl ReducerState.readChunk .new=s at hevents hbracketed htells
  obtain ⟨hbalanced,hbody⟩:=hbracketed.body
  obtain ⟨hthinking,hcontent,hsaw⟩:=htells.body
  have hreason:s.finishReason=lastFinish (chunksOf env input) :=
    htells.reason.trans (Option.or_none)
  rw [finishStream_eq] at hevents
  refine ⟨renderAll renv messageId model events,?_,?_⟩
  · unfold translateStreamBytes
    rw [h]
  · subst hevents
    have hbrackets:∀ stopReason usage,bracketsOf (bodyOf s++[.finish stopReason usage]) = bracketsOf (bodyOf s):=by
      intro stopReason usage
      rw [bracketsOf_append]
      exact List.append_nil _
    refine ⟨⟨_,_,_,rfl,hbody,hbalanced⟩,?_,?_,?_,?_,?_⟩
    · rw [hbrackets]
      exact hbalanced.starts_eq
    · exact render_body renv messageId model hbody hbalanced _ _
    · unfold thinkingText at hthinking ⊢
      rw [List.flatMap_append,hthinking]
      exact List.append_nil _
    · unfold contentText at hcontent ⊢
      rw [List.flatMap_append,hcontent]
      exact List.append_nil _
    · intro stopReason usage hmem
      have hlast:ReducerEvent.finish stopReason usage∈bodyOf s++[ReducerEvent.finish _ _] :=
        hmem
      rcases List.mem_append.mp hlast with hmem | hmem
      · exact (nomatch hbody _ hmem)
      · obtain ⟨rfl,-⟩:=ReducerEvent.finish.inj (List.mem_singleton.mp hmem)
        have hany:(bodyOf s++[ReducerEvent.finish (if s.finishReason=some "length" then
            .maxTokens else if s.finishReason=some "tool_calls" then .toolUse
            else if s.sawToolCalls then .toolUse else .endTurn) s.finalUsage]).any isToolStart =
              s.sawToolCalls:=by
          rw [List.any_append,← hsaw]
          exact Bool.or_false _
        rw [hany,← hreason]
        exact stopReason_iff s.finishReason s.sawToolCalls rfl

def callsText : Text := "\x7b\"choices\":[\x7b\"finish_reason\":\"tool_calls\"\x7d]\x7d".toList

def callsChunk : StreamChunk := ⟨some [⟨none,some "tool_calls"⟩],none,none⟩

def callsEnv : KimiEnv where
 fromUtf8Lossy input := input.map fun byte=>Char.ofNat byte.toNat
 fromStr data := if data=callsText then some callsChunk else none

def plainRender : RenderEnv := ⟨fun messageId index=>messageId++toString index,fun _=>none⟩

set_option maxRecDepth 8000 in
theorem chunksOf_calls : chunksOf callsEnv (KimiReassembly.sampleInput callsText)=[callsChunk]:=by
 have hchars:callsText=_:=String.toList_ofList
 have hevents:(parseSseText (callsEnv.fromUtf8Lossy (KimiReassembly.sampleInput callsText))).map
   (fun event=>trim event.data)=[callsText]:=by
  rw [hchars]
  decide +kernel
 have hdata:(callsText.isEmpty||callsText = "[DONE]".toList)=false:=by
  rw [hchars]
  decide +kernel
 have hchunk:callsEnv.fromStr callsText=some callsChunk:=by
  change (if callsText=callsText then some callsChunk else none)=_
  exact if_pos rfl
 exact KimiReassembly.chunksOf_single hevents hdata hchunk

theorem reduce_calls : reduceUpstreamBytes callsEnv (KimiReassembly.sampleInput callsText) =
  .ok [.finish .toolUse none]:=by
 unfold reduceUpstreamBytes
 rw [chunksOf_calls]
 rfl

theorem kimi_message_well_formed_calls : ∃ stream,
    translateStreamBytes callsEnv plainRender (KimiReassembly.sampleInput callsText) "m" "kimi" = .ok stream ∧
      WellFormed (chunksOf callsEnv (KimiReassembly.sampleInput callsText)) "m" "kimi" [.finish .toolUse none] stream :=
  kimi_message_well_formed callsEnv plainRender _ "m" "kimi" _ reduce_calls

/-- Upstream says `tool_calls` and calls no tool. -/
theorem tool_use_without_tool :
    ¬ ∀ (env:KimiEnv) (input:List UInt8) (events:List ReducerEvent),
      reduceUpstreamBytes env input=.ok events →
        lastFinish (chunksOf env input)≠some "length" →
          ∀ stopReason usage, .finish stopReason usage∈events →
            (stopReason=.toolUse ↔ events.any isToolStart=true):=by
  intro h
  have hall:=h callsEnv _ _ reduce_calls
  rw [chunksOf_calls] at hall
  have htool:=(hall (by decide) .toolUse none List.mem_cons_self).mp rfl
  exact Bool.false_ne_true htool

end CursorProxy.KimiBrackets
