import CursorProxy.KimiToolCalls

namespace CursorProxy.KimiReassembly
open XmlElements SseEvents KimiReducer KimiToolCalls

def isToolPart : ReducerEvent → Bool
 | .toolStart _ _ _=>true
 | .toolDelta _ _=>true
 | _=>false

def toolPart (events:List ReducerEvent) : List ReducerEvent := events.filter isToolPart

/-- The tool events of a stream whose calls have a block each: a start at the first fragment, and
the arguments of every fragment in the block of its index. -/
def expected (block:ℕ → ℕ) : List ℕ → List StreamToolCall → List ReducerEvent
 | _,[]=>[]
 | seen,tc::calls=>
  (if tc.index∈seen then [] else [.toolStart (block tc.index) tc.idText tc.nameText]) ++
   deltas (block tc.index) tc++expected block (tc.index::seen) calls

def startsOf (block:ℕ) (events:List ReducerEvent) : List (String×String) :=
 events.filterMap fun event=>match event with
  | .toolStart index id name=>if index=block then some (id,name) else none
  | _=>none

def fragmentsOf (block:ℕ) (events:List ReducerEvent) : List String :=
 events.filterMap fun event=>match event with
  | .toolDelta index partialJson=>if index=block then some partialJson else none
  | _=>none

def argumentsOf (index:ℕ) (calls:List StreamToolCall) : List String :=
 (calls.filter fun tc=>tc.index=index).map StreamToolCall.argumentsText

/-- Every index has one block, no two have the same, and a block is started once, with the id and
name of the first fragment of its index, and receives the arguments of that index. -/
structure Reassembled (calls:List StreamToolCall) (events:List ReducerEvent) : Prop where
 blocks : ∃ block:ℕ → ℕ,Set.InjOn block {index | index∈calls.map StreamToolCall.index} ∧
  toolPart events=expected block [] calls ∧
  ∀ index∈calls.map StreamToolCall.index,
   startsOf (block index) events=((calls.find? fun tc=>tc.index=index).map
    fun tc=>(tc.idText,tc.nameText)).toList ∧
   String.join (fragmentsOf (block index) events)=String.join (argumentsOf index calls)

theorem toolPart_append (events more:List ReducerEvent) : toolPart (events++more)=toolPart events++toolPart more :=
 List.filter_append ..

theorem toolPart_closeThinking (s:ReducerState) : toolPart s.closeThinking.out=toolPart s.out:=by
 unfold ReducerState.closeThinking
 cases s.thinkingIndex with
 | none=>rfl
 | some index=>
  dsimp only
  rw [toolPart_append]
  exact List.append_nil _

theorem toolPart_closeText (s:ReducerState) : toolPart s.closeText.out=toolPart s.out:=by
 unfold ReducerState.closeText
 cases s.textIndex with
 | none=>rfl
 | some index=>
  dsimp only
  rw [toolPart_append]
  exact List.append_nil _

theorem toolPart_readReasoning (s:ReducerState) (text:String) : toolPart (s.readReasoning text).out=toolPart s.out:=by
 unfold ReducerState.readReasoning
 cases s.thinkingIndex with
 | none=>
  dsimp only
  rw [toolPart_append]
  exact List.append_nil _
 | some index=>
  dsimp only
  rw [toolPart_append]
  exact List.append_nil _

theorem toolPart_readContent (s:ReducerState) (text:String) : toolPart (s.readContent text).out=toolPart s.out:=by
 rw [← toolPart_closeThinking s]
 unfold ReducerState.readContent
 dsimp only
 cases s.closeThinking.textIndex with
 | none=>
  dsimp only
  rw [toolPart_append]
  exact List.append_nil _
 | some index=>
  dsimp only
  rw [toolPart_append]
  exact List.append_nil _

theorem toolPart_deltas (block:ℕ) (tc:StreamToolCall) : toolPart (deltas block tc)=deltas block tc:=by
 unfold deltas
 split_ifs <;> rfl

theorem readToolCall_out (s:ReducerState) (tc:StreamToolCall) :
  (s.readToolCall tc).out=s.out++emitted s tc ∧ toolPart (emitted s tc)=emitted s tc:=by
 have hadded:∀ events,(s.readToolCall tc).out=s.out++events → toolPart events=events →
   (s.readToolCall tc).out=s.out++emitted s tc ∧ toolPart (emitted s tc)=emitted s tc:=by
  intro events hout hpart
  rw [emitted_of_out hout]
  exact ⟨hout,hpart⟩
 cases hfind:s.toolSlots.find? fun slot=>slot.blockIndex=tc.index with
 | some slot=>
  refine hadded (deltas slot.blockIndex tc) ?_ (toolPart_deltas _ _)
  unfold ReducerState.readToolCall
  rw [hfind]
  dsimp only
  rw [pushArguments_eq]
 | none=>
  by_cases hnameless:(tc.idText.isEmpty||tc.nameText.isEmpty)=true
  · refine hadded [] ?_ rfl
    unfold ReducerState.readToolCall
    rw [hfind]
    dsimp only
    rw [if_pos hnameless,List.append_nil]
  · refine hadded (.toolStart s.nextBlockIndex tc.idText tc.nameText ::
     deltas s.nextBlockIndex tc) ?_ (congrArg _ (toolPart_deltas _ _))
    unfold ReducerState.readToolCall
    rw [hfind]
    dsimp only
    rw [if_neg hnameless,pushArguments_eq,List.append_assoc]
    rfl

theorem toolPart_run (steps:List Step) : ∀ s:ReducerState,
  toolPart (steps.foldl readStep s).out = toolPart s.out++(emissionsOf s steps).flatMap Prod.snd:=by
 induction steps with
 | nil=>exact fun s=>(List.append_nil _).symm
 | cons step steps ih=>
  intro s
  rw [List.foldl_cons,ih]
  cases step with
  | reasoning text=>
   change toolPart (s.readReasoning text).out++_=_
   rw [toolPart_readReasoning]
   rfl
  | content text=>
   change toolPart (s.readContent text).out++_=_
   rw [toolPart_readContent]
   rfl
  | tools=>
   change toolPart s.closeThinking.closeText.out++_=_
   rw [toolPart_closeText,toolPart_closeThinking]
   rfl
  | call tc=>
   obtain ⟨hout,hpart⟩:=readToolCall_out s tc
   change toolPart (s.readToolCall tc).out++_=_++(emitted s tc++_)
   rw [hout,toolPart_append,hpart,List.append_assoc]
   rfl

theorem toolPart_finishStream (s:ReducerState) : toolPart s.finishStream=toolPart s.out:=by
 have hstops:∀ slots:List ToolSlot,toolPart (slots.map fun slot=>.toolStop slot.blockIndex)=[]:=by
  intro slots
  induction slots with
  | nil=>rfl
  | cons slot slots ih=>exact ih
 unfold ReducerState.finishStream
 dsimp only
 rw [toolPart_append,toolPart_append,hstops,toolPart_closeText,toolPart_closeThinking,List.append_nil]
 exact List.append_nil _

theorem emissionsOf_calls (steps:List Step) : ∀ s:ReducerState,(emissionsOf s steps).map Prod.fst=callsOf steps:=by
 induction steps with
 | nil=>exact fun _=>rfl
 | cons step steps ih=>
  intro s
  cases step with
  | reasoning text=>exact ih _
  | content text=>exact ih _
  | tools=>exact ih _
  | call tc=>exact congrArg (tc :: ·) (ih _)

theorem lookup_none_iff {blocks:List (ℕ×ℕ)} {index:ℕ} : blocks.lookup index=none ↔ index ∉ blocks.map Prod.fst:=by
 rw [List.lookup_eq_none_iff,List.mem_map]
 constructor
 · rintro h ⟨entry,hentry,rfl⟩
   exact absurd (h entry hentry) (by simp)
 · intro h entry hentry
   exact bne_iff_ne.mpr fun heq=>h ⟨entry,hentry,heq.symm⟩

theorem expected_cons (block:ℕ → ℕ) (seen:List ℕ) (tc:StreamToolCall)
  (calls:List StreamToolCall) : expected block seen (tc::calls) =
   (if tc.index∈seen then [] else [.toolStart (block tc.index) tc.idText tc.nameText]) ++
    deltas (block tc.index) tc++expected block (tc.index::seen) calls :=
 rfl

theorem expected_congr (block:ℕ → ℕ) (calls:List StreamToolCall) : ∀ seen seen' : List ℕ,
  (∀ index,index∈seen ↔ index∈seen') → expected block seen calls=expected block seen' calls:=by
 induction calls with
 | nil=>exact fun _ _ _=>rfl
 | cons tc calls ih=>
  intro seen seen' hseen
  rw [expected_cons,expected_cons,ih (tc.index::seen) (tc.index::seen') fun index=>by
   rw [List.mem_cons,List.mem_cons,hseen]]
  simp only [hseen]

theorem attributed_blocks (emissions:List (StreamToolCall×List ReducerEvent)) :
  ∀ blocks:List (ℕ×ℕ),
   (∀ index index' block,blocks.lookup index=some block →
    blocks.lookup index'=some block → index=index') → Attributed blocks emissions →
   ∃ block:ℕ → ℕ,(∀ index number,blocks.lookup index=some number → block index=number) ∧
    Set.InjOn block {index | index∈blocks.map Prod.fst ∨ index∈(emissions.map Prod.fst).map StreamToolCall.index} ∧
    emissions.flatMap Prod.snd = expected block (blocks.map Prod.fst) (emissions.map Prod.fst):=by
 induction emissions with
 | nil=>
  intro blocks hinj _
  refine ⟨fun index=>(blocks.lookup index).getD 0,fun index number h=>by
   dsimp only
   rw [h]
   rfl,?_,rfl⟩
  rintro index (hindex | hindex) index' (hindex' | hindex') heq
  · obtain ⟨number,hnumber⟩:=Option.ne_none_iff_exists'.mp (mt lookup_none_iff.mp (not_not_intro hindex))
    obtain ⟨number',hnumber'⟩:=Option.ne_none_iff_exists'.mp (mt lookup_none_iff.mp (not_not_intro hindex'))
    dsimp only at heq
    rw [hnumber,hnumber'] at heq
    change number=number' at heq
    rw [← heq] at hnumber'
    exact hinj index index' number hnumber hnumber'
  · cases hindex'
  · cases hindex
  · cases hindex
 | cons emission emissions ih=>
  obtain ⟨tc,events⟩:=emission
  intro blocks hinj h
  unfold Attributed at h
  cases hlookup:blocks.lookup tc.index with
  | some number=>
   rw [hlookup] at h
   obtain ⟨hevents,hrest⟩:=h
   obtain ⟨block,hblock,hinjective,hexpected⟩:=ih blocks hinj hrest
   have hseen:tc.index∈blocks.map Prod.fst:=by
    by_contra hnot
    rw [lookup_none_iff.mpr hnot] at hlookup
    cases hlookup
   refine ⟨block,hblock,hinjective.mono ?_,?_⟩
   · rintro index (hindex | hindex)
     · exact Or.inl hindex
     · rcases List.mem_cons.mp hindex with rfl | hindex
       · exact Or.inl hseen
       · exact Or.inr hindex
   · rw [List.flatMap_cons,hexpected,hevents,List.map_cons,expected_cons,if_pos hseen,
      hblock _ _ hlookup,List.nil_append]
     refine congrArg _ (expected_congr block _ _ _ fun index=>?_)
     rw [List.mem_cons]
     exact ⟨Or.inr,fun hindex=>hindex.elim (fun heq=>heq ▸ hseen) id⟩
  | none=>
   rw [hlookup] at h
   obtain ⟨number,hfresh,hevents,hrest⟩:=h
   have hkept:∀ index number',blocks.lookup index=some number' →
     ((tc.index,number)::blocks).lookup index=some number':=by
    intro index number' hindex
    rw [List.lookup_cons]
    cases hsame:index==tc.index with
    | false=>exact hindex
    | true=>
     rw [eq_of_beq hsame,hlookup] at hindex
     cases hindex
   have hown:((tc.index,number)::blocks).lookup tc.index=some number:=by
    rw [List.lookup_cons,beq_self_eq_true]
   have hcases:∀ index number',((tc.index,number)::blocks).lookup index=some number' →
     index=tc.index ∧ number'=number ∨ blocks.lookup index=some number':=by
    intro index number' hindex
    rw [List.lookup_cons] at hindex
    cases hsame:index==tc.index with
    | true=>
     rw [hsame] at hindex
     exact Or.inl ⟨eq_of_beq hsame,(Option.some.inj hindex).symm⟩
    | false=>
     rw [hsame] at hindex
     exact Or.inr hindex
   have hinj':∀ index index' number',((tc.index,number)::blocks).lookup index =
     some number' → ((tc.index,number)::blocks).lookup index'=some number' → index=index':=by
    intro index index' number' hindex hindex'
    rcases hcases _ _ hindex with ⟨rfl,rfl⟩ | hold <;>
     rcases hcases _ _ hindex' with ⟨heq,hnumber⟩ | hold'
    · exact heq.symm
    · exact absurd (mem_of_lookup hold') hfresh
    · exact absurd (hnumber ▸ mem_of_lookup hold) hfresh
    · exact hinj _ _ _ hold hold'
   obtain ⟨block,hblock,hinjective,hexpected⟩:=ih _ hinj' hrest
   refine ⟨block,fun index number' hindex=>hblock _ _ (hkept _ _ hindex),
    hinjective.mono ?_,?_⟩
   · rintro index (hindex | hindex)
     · exact Or.inl (List.mem_cons_of_mem _ hindex)
     · rcases List.mem_cons.mp hindex with rfl | hindex
       · exact Or.inl List.mem_cons_self
       · exact Or.inr hindex
   · rw [List.flatMap_cons,hexpected,hevents]
     change _=expected block (blocks.map Prod.fst) (tc::emissions.map Prod.fst)
     rw [expected_cons,if_neg (lookup_none_iff.mp hlookup),hblock _ _ hown]
     rfl

theorem startsOf_append (block:ℕ) (events more:List ReducerEvent) :
  startsOf block (events++more)=startsOf block events++startsOf block more :=
 List.filterMap_append ..

theorem fragmentsOf_append (block:ℕ) (events more:List ReducerEvent) :
  fragmentsOf block (events++more)=fragmentsOf block events++fragmentsOf block more :=
 List.filterMap_append ..

theorem startsOf_toolPart (block:ℕ) (events:List ReducerEvent) :
  startsOf block (toolPart events)=startsOf block events:=by
 induction events with
 | nil=>rfl
 | cons event events ih=>
  change startsOf block (toolPart ([event]++events))=startsOf block ([event]++events)
  rw [toolPart_append,startsOf_append,startsOf_append,ih]
  cases event <;> rfl

theorem fragmentsOf_toolPart (block:ℕ) (events:List ReducerEvent) :
  fragmentsOf block (toolPart events)=fragmentsOf block events:=by
 induction events with
 | nil=>rfl
 | cons event events ih=>
  change fragmentsOf block (toolPart ([event]++events))=fragmentsOf block ([event]++events)
  rw [toolPart_append,fragmentsOf_append,fragmentsOf_append,ih]
  cases event <;> rfl

theorem startsOf_start (block block':ℕ) (id name:String) :
  startsOf block [.toolStart block' id name]=if block'=block then [(id,name)] else []:=by
 unfold startsOf
 split_ifs with h <;> simp [h]

theorem fragmentsOf_delta (block block':ℕ) (text:String) :
  fragmentsOf block [.toolDelta block' text]=if block'=block then [text] else []:=by
 unfold fragmentsOf
 split_ifs with h <;> simp [h]

theorem startsOf_deltas (block block':ℕ) (tc:StreamToolCall) : startsOf block (deltas block' tc)=[]:=by
 unfold deltas
 split_ifs <;> rfl

theorem fragmentsOf_deltas (block:ℕ) (tc:StreamToolCall) :
  String.join (fragmentsOf block (deltas block tc))=tc.argumentsText:=by
 unfold deltas
 split_ifs with hempty
 · exact (String.isEmpty_iff.mp hempty).symm
 · rw [fragmentsOf_delta,if_pos rfl,String.join_cons,String.join_nil,String.append_empty]

theorem fragmentsOf_deltas_other {block block':ℕ} (h:block'≠block) (tc:StreamToolCall) :
  fragmentsOf block (deltas block' tc)=[]:=by
 unfold deltas
 split_ifs with hempty
 · rfl
 · rw [fragmentsOf_delta,if_neg h]

section received
variable {block:ℕ → ℕ} {index:ℕ}

theorem startsOf_expected (calls:List StreamToolCall) : ∀ seen:List ℕ,
  (∀ tc∈calls,block tc.index=block index → tc.index=index) →
  startsOf (block index) (expected block seen calls) =
   if index∈seen then [] else ((calls.find? fun tc=>tc.index=index).map
    fun tc=>(tc.idText,tc.nameText)).toList:=by
 induction calls with
 | nil=>exact fun seen _=>by split_ifs <;> rfl
 | cons tc calls ih=>
  intro seen hinj
  have hrest:=ih (tc.index::seen) fun other hmem=>hinj other (List.mem_cons_of_mem _ hmem)
  rw [expected_cons,startsOf_append,startsOf_append,startsOf_deltas,List.append_nil,hrest]
  by_cases hsame:tc.index=index
  · have hlater:index∈tc.index::seen:=hsame ▸ List.mem_cons_self
    rw [if_pos hlater,List.append_nil,hsame]
    split_ifs with hseen
    · rfl
    · rw [List.find?_cons_of_pos (by simpa using hsame),startsOf_start,if_pos rfl]
      rfl
  · have hfirst:startsOf (block index) (if tc.index∈seen then []
      else [.toolStart (block tc.index) tc.idText tc.nameText])=[]:=by
     split_ifs
     · rfl
     · rw [startsOf_start,if_neg fun heq=>hsame (hinj tc List.mem_cons_self heq)]
    rw [hfirst,List.nil_append,List.find?_cons_of_neg (by simpa using hsame)]
    refine if_congr ?_ rfl rfl
    rw [List.mem_cons]
    exact ⟨fun hmem=>hmem.elim (fun heq=>absurd heq.symm hsame) id,Or.inr⟩

theorem fragmentsOf_expected (calls:List StreamToolCall) : ∀ seen:List ℕ,
  (∀ tc∈calls,block tc.index=block index → tc.index=index) →
  String.join (fragmentsOf (block index) (expected block seen calls)) = String.join (argumentsOf index calls):=by
 induction calls with
 | nil=>exact fun _ _=>rfl
 | cons tc calls ih=>
  intro seen hinj
  have hrest:=ih (tc.index::seen) fun other hmem=>hinj other (List.mem_cons_of_mem _ hmem)
  have hstart:fragmentsOf (block index) (if tc.index∈seen then []
    else [.toolStart (block tc.index) tc.idText tc.nameText])=[]:=by
   split_ifs <;> rfl
  rw [expected_cons,fragmentsOf_append,fragmentsOf_append,hstart,List.nil_append,String.join_append,hrest]
  unfold argumentsOf
  by_cases hsame:tc.index=index
  · rw [List.filter_cons_of_pos (by simpa using hsame),List.map_cons,String.join_cons,hsame,
     fragmentsOf_deltas]
  · rw [List.filter_cons_of_neg (by simpa using hsame),
     fragmentsOf_deltas_other fun heq=>hsame (hinj tc List.mem_cons_self heq)]
    exact String.empty_append

end received

theorem attributed_reassembled {steps:List Step} {events:List ReducerEvent}
  (hevents:toolPart events=(emissionsOf .new steps).flatMap Prod.snd)
  (h:Attributed [] (emissionsOf .new steps)) : Reassembled (callsOf steps) events:=by
 obtain ⟨block,-,hinjective,hexpected⟩:=attributed_blocks _ [] (fun _ _ _ hnone=>(nomatch hnone)) h
 rw [emissionsOf_calls] at hinjective hexpected
 have hinj:Set.InjOn block {index | index∈(callsOf steps).map StreamToolCall.index} :=
  hinjective.mono fun _=>Or.inr
 rw [← hevents] at hexpected
 refine ⟨block,hinj,hexpected,fun index hindex=>?_⟩
 have hown:∀ tc∈callsOf steps,block tc.index=block index → tc.index=index :=
  fun tc hmem heq=>hinj (List.mem_map_of_mem hmem) hindex heq
 constructor
 · rw [← startsOf_toolPart,hexpected]
   exact startsOf_expected _ [] hown
 · rw [← fragmentsOf_toolPart,hexpected]
   exact fragmentsOf_expected _ [] hown

/-- No fragment is dropped, attached to another call or turned into a second call, and the events
of the tools are those of the calls. -/
structure Faithful (steps:List Step) (events:List ReducerEvent) : Prop where
 attributed : Attributed [] (emissionsOf .new steps)
 reassembled : Reassembled (callsOf steps) events

theorem agrees_new : Agrees .new .new :=
 ⟨rfl,rfl,rfl,fun _=>Iff.rfl,fun _ hmem=>(nomatch hmem)⟩

/-- The tool calls of a stream come out faithfully exactly if the index of every fragment agrees
with the number of its call's block. -/
theorem reassembles_iff (env:KimiEnv) (input:List UInt8) (events:List ReducerEvent)
    (hread:reduceUpstreamBytes env input=.ok events) (hnamed:FirstNamed (callsOf (stepsOf (chunksOf env input)))) :
    Faithful (stepsOf (chunksOf env input)) events ↔ Numbered .new (stepsOf (chunksOf env input)):=by
  obtain ⟨reason,usage,rfl⟩:=reduceChunks_steps _ _ hread
  have hpart:toolPart (withFinish ((stepsOf (chunksOf env input)).foldl readStep .new)
      reason usage).finishStream = (emissionsOf .new (stepsOf (chunksOf env input))).flatMap Prod.snd:=by
    rw [toolPart_finishStream]
    exact toolPart_run _ .new
  have hiff:=attributed_iff (stepsOf (chunksOf env input)) .new .new agrees_new
    fun before tc after hsplit _ hfirst=>hnamed before tc after hsplit hfirst
  constructor
  · intro h
    exact hiff.mp h.attributed
  · intro h
    exact ⟨hiff.mpr h,attributed_reassembled hpart (hiff.mpr h)⟩

def plainText : Text :=
 "\x7b\"choices\":[\x7b\"delta\":\x7b\"tool_calls\":[\x7b\"index\":0,\"id\":\"a\",\"function\":\x7b\"name\":\"f\"\x7d\x7d,\x7b\"index\":0,\"function\":\x7b\"arguments\":\"\x7b\x7d\"\x7d\x7d]\x7d\x7d]\x7d".toList

def reasoningText : Text :=
 "\x7b\"choices\":[\x7b\"delta\":\x7b\"reasoning_content\":\"t\",\"tool_calls\":[\x7b\"index\":0,\"id\":\"a\",\"function\":\x7b\"name\":\"f\"\x7d\x7d,\x7b\"index\":0,\"function\":\x7b\"arguments\":\"\x7b\x7d\"\x7d\x7d]\x7d\x7d]\x7d".toList

def sampleCalls : List StreamToolCall :=
 [⟨0,some "a",some ⟨some "f",none⟩⟩,⟨0,none,some ⟨none,some "{}"⟩⟩]

def sampleChunk (reasoning:Option String) : StreamChunk :=
 ⟨some [⟨some ⟨none,reasoning,some sampleCalls⟩,none⟩],none,none⟩

def sampleEnv : KimiEnv where
 fromUtf8Lossy input := input.map fun byte=>Char.ofNat byte.toNat
 fromStr data :=
  if data=plainText then some (sampleChunk none)
  else if data=reasoningText then some (sampleChunk (some "t"))
  else none

def sampleInput (text:Text) : List UInt8 :=
 ("data: ".toList++text ++ "\n\n".toList).map fun char=>UInt8.ofNat char.toNat

theorem firstNamed_single {tc:StreamToolCall} {calls:List StreamToolCall} (hsame:∀ other∈calls,other.index=tc.index)
  (hnamed:tc.idText ≠ "" ∧ tc.nameText ≠ "") : FirstNamed (tc::calls):=by
 intro before other after hsplit hfirst
 cases before with
 | nil=>
  obtain ⟨rfl,-⟩:=List.cons.inj hsplit
  exact hnamed
 | cons earlier before=>
  obtain ⟨rfl,hcalls⟩:=List.cons.inj hsplit
  have hmem:other∈calls:=hcalls ▸ List.mem_append_right before List.mem_cons_self
  exact absurd (hsame other hmem).symm (hfirst _ List.mem_cons_self)

theorem chunksOf_single {env:KimiEnv} {input:List UInt8} {text:Text} {chunk:StreamChunk}
  (hevents:(parseSseText (env.fromUtf8Lossy input)).map (fun event=>trim event.data)=[text])
  (hdata:(text.isEmpty||text = "[DONE]".toList)=false)
  (hchunk:env.fromStr text=some chunk) : chunksOf env input=[chunk]:=by
 obtain ⟨event,hevent,rfl⟩:=List.map_eq_singleton_iff.mp hevents
 unfold chunksOf
 rw [hevent,List.filterMap_cons_some,List.filterMap_nil]
 dsimp only
 rw [hdata]
 exact hchunk

set_option maxRecDepth 8000 in
theorem chunksOf_plain : chunksOf sampleEnv (sampleInput plainText)=[sampleChunk none]:=by
 have hchars:plainText=_:=String.toList_ofList
 have hevents:(parseSseText (sampleEnv.fromUtf8Lossy (sampleInput plainText))).map
   (fun event=>trim event.data)=[plainText]:=by
  rw [hchars]
  decide
 have hdata:(plainText.isEmpty||plainText = "[DONE]".toList)=false:=by
  rw [hchars]
  decide
 have hchunk:sampleEnv.fromStr plainText=some (sampleChunk none):=by
  unfold sampleEnv
  dsimp only
  rw [if_pos rfl]
 exact chunksOf_single hevents hdata hchunk

/-- Nothing comes before the call, whose block has its index. -/
theorem reassembles_iff_plain : ∃ events,
    reduceUpstreamBytes sampleEnv (sampleInput plainText)=.ok events ∧
      Faithful (stepsOf (chunksOf sampleEnv (sampleInput plainText))) events:=by
  have hread:∃ events,reduceUpstreamBytes sampleEnv (sampleInput plainText)=.ok events:=by
    unfold reduceUpstreamBytes
    rw [chunksOf_plain]
    exact ⟨_,rfl⟩
  obtain ⟨events,hread⟩:=hread
  refine ⟨events,hread,(reassembles_iff _ _ _ hread ?_).mpr ?_⟩
  · rw [chunksOf_plain]
    exact firstNamed_single (by decide) (by decide)
  · rw [chunksOf_plain]
    exact ⟨List.not_mem_nil,Or.inl rfl,trivial⟩

set_option maxRecDepth 8000 in
theorem chunksOf_reasoning : chunksOf sampleEnv (sampleInput reasoningText)=[sampleChunk (some "t")]:=by
 have hchars:reasoningText=_:=String.toList_ofList
 have hevents:(parseSseText (sampleEnv.fromUtf8Lossy (sampleInput reasoningText))).map
   (fun event=>trim event.data)=[reasoningText]:=by
  rw [hchars]
  decide
 have hdata:(reasoningText.isEmpty||reasoningText = "[DONE]".toList)=false:=by
  rw [hchars]
  decide
 have hother:reasoningText≠plainText:=by
  rw [hchars,show plainText=_ from String.toList_ofList]
  decide
 have hchunk:sampleEnv.fromStr reasoningText=some (sampleChunk (some "t")):=by
  unfold sampleEnv
  dsimp only
  rw [if_neg hother,if_pos rfl]
 exact chunksOf_single hevents hdata hchunk

/-- After reasoning the call has block 1, and its arguments are dropped. -/
theorem reasoning_drops_arguments :
    ¬ ∀ (env:KimiEnv) (input:List UInt8) (events:List ReducerEvent),reduceUpstreamBytes env input=.ok events →
      FirstNamed (callsOf (stepsOf (chunksOf env input))) →
      Reassembled (callsOf (stepsOf (chunksOf env input))) events:=by
  intro h
  have hread:reduceUpstreamBytes sampleEnv (sampleInput reasoningText)=.ok
      [.thinkingStart 0,.thinkingDelta 0 "t",.thinkingStop 0,.toolStart 1 "a" "f",.toolStop 1,
        .finish .toolUse none]:=by
    unfold reduceUpstreamBytes
    rw [chunksOf_reasoning]
    rfl
  have hall:=h _ _ _ hread
  rw [chunksOf_reasoning] at hall
  obtain ⟨block,-,hexpected,-⟩:=hall (firstNamed_single (by decide) (by decide))
  have hlength:1=2:=congrArg List.length hexpected
  exact absurd hlength (by decide)

end CursorProxy.KimiReassembly
