import CursorProxy.KimiReducer

namespace CursorProxy.KimiToolCalls
open KimiReducer

inductive Step where
 | reasoning (text:String)
 | content (text:String)
 /-- Tool calls begin. -/
 | tools
 | call (tc:StreamToolCall)

def readStep (s:ReducerState) : Step → ReducerState
 | .reasoning text=>s.readReasoning text
 | .content text=>s.readContent text
 | .tools=>s.closeThinking.closeText
 | .call tc=>s.readToolCall tc

def textSteps (step:String → Step) (text:Option String) : List Step :=
 match text with
 | some text=>if text.isEmpty then [] else [step text]
 | none=>[]

def stepsOfDelta (delta:StreamDelta) : List Step :=
 textSteps .reasoning delta.reasoningContent++textSteps .content delta.content ++
  match delta.toolCalls with
  | some toolCalls=>if toolCalls.isEmpty then [] else .tools::toolCalls.map .call
  | none=>[]

def stepsOfChunk (chunk:StreamChunk) : List Step :=
 if chunk.usage.isSome&&(chunk.choices.getD []).isEmpty then []
 else match (chunk.choices.getD []).head? with
  | none=>[]
  | some choice=>match choice.delta with
   | none=>[]
   | some delta=>stepsOfDelta delta

def stepsOf (chunks:List StreamChunk) : List Step := chunks.flatMap stepsOfChunk

def callsOf (steps:List Step) : List StreamToolCall :=
 steps.filterMap fun step=>match step with
  | .call tc=>some tc
  | _=>none

/-- What the reading leaves out of sight: how the stream finishes. -/
def withFinish (s:ReducerState) (reason:Option String) (usage:Option KimiUsage) : ReducerState :=
 { s with finishReason := reason,finalUsage := usage }

theorem foldl_textSteps (step:String → Step) (text:Option String) (s:ReducerState) :
 (textSteps step text).foldl readStep s=match text with
  | some text=>if text.isEmpty then s else readStep s (step text)
  | none=>s:=by
 unfold textSteps
 cases text with
 | none=>rfl
 | some text=>
  dsimp only
  split_ifs <;> rfl

theorem readDelta_steps (s:ReducerState) (delta:StreamDelta) :
 s.readDelta delta=(stepsOfDelta delta).foldl readStep s:=by
 have hcalls:∀ (toolCalls:List StreamToolCall) (s:ReducerState),
  toolCalls.foldl ReducerState.readToolCall s=(toolCalls.map Step.call).foldl readStep s:=by
  intro toolCalls s
  rw [List.foldl_map]
  rfl
 unfold stepsOfDelta
 rw [List.foldl_append,List.foldl_append,foldl_textSteps,foldl_textSteps]
 unfold ReducerState.readDelta
 cases delta.toolCalls with
 | none=>rfl
 | some toolCalls=>
  dsimp only
  split_ifs
  · rfl
  · rw [List.foldl_cons,hcalls]
    rfl

theorem readStep_withFinish (s:ReducerState) (reason:Option String) (usage:Option KimiUsage) (step:Step) :
 readStep (withFinish s reason usage) step=withFinish (readStep s step) reason usage:=by
 obtain ⟨out,next,thinking,openText,slots,saw,reason',usage'⟩:=s
 cases step with
 | reasoning text=>cases thinking <;> rfl
 | content text=>cases thinking <;> cases openText <;> rfl
 | tools=>cases thinking <;> cases openText <;> rfl
 | call tc=>
  unfold readStep ReducerState.readToolCall ReducerState.pushArguments withFinish
  dsimp only
  cases slots.find? fun slot=>slot.blockIndex=tc.index with
  | some slot=>
   dsimp only
   split_ifs <;> rfl
  | none=>
   dsimp only
   split_ifs <;> rfl

theorem steps_withFinish (steps:List Step) (s:ReducerState) (reason:Option String) (usage:Option KimiUsage) :
 steps.foldl readStep (withFinish s reason usage) = withFinish (steps.foldl readStep s) reason usage:=by
 induction steps generalizing s with
 | nil=>rfl
 | cons step steps ih=>rw [List.foldl_cons,readStep_withFinish,ih,List.foldl_cons]

theorem readChunk_steps (s:ReducerState) (chunk:StreamChunk) :
 ∃ reason usage,s.readChunk chunk = withFinish ((stepsOfChunk chunk).foldl readStep s) reason usage:=by
 have hfinish:∀ (s:ReducerState) (choice:StreamChoice),
  ∃ reason usage,s.readFinish chunk choice=withFinish s reason usage:=by
  intro s choice
  unfold ReducerState.readFinish
  cases choice.finishReason with
  | none=>exact ⟨s.finishReason,s.finalUsage,rfl⟩
  | some reason=>exact ⟨_,_,rfl⟩
 unfold ReducerState.readChunk stepsOfChunk
 split_ifs
 · exact ⟨s.finishReason,_,rfl⟩
 · cases (chunk.choices.getD []).head? with
   | none=>exact ⟨s.finishReason,s.finalUsage,rfl⟩
   | some choice=>
    dsimp only
    cases choice.delta with
    | none=>exact hfinish s choice
    | some delta=>
     dsimp only
     rw [readDelta_steps]
     exact hfinish _ choice

theorem reduceChunks_steps (chunks:List StreamChunk) (s:ReducerState)
 {events:List ReducerEvent} (h:reduceChunks s chunks=.ok events) :
 ∃ reason usage,events = (withFinish ((stepsOf chunks).foldl readStep s) reason usage).finishStream:=by
 induction chunks generalizing s with
 | nil=>
  exact ⟨s.finishReason,s.finalUsage,(Except.ok.inj h).symm⟩
 | cons chunk chunks ih=>
  unfold reduceChunks at h
  cases herror:chunk.error with
  | some message=>
   rw [herror] at h
   exact (nomatch h)
  | none=>
   rw [herror] at h
   obtain ⟨reason,usage,hchunk⟩:=readChunk_steps s chunk
   obtain ⟨reason',usage',hevents⟩:=ih _ h
   refine ⟨reason',usage',?_⟩
   rw [hevents,hchunk,steps_withFinish]
   unfold stepsOf
   rw [List.flatMap_cons,List.foldl_append]
   rfl

/-- The events that are pushed while a fragment is read. -/
def emitted (s:ReducerState) (tc:StreamToolCall) : List ReducerEvent :=
 (s.readToolCall tc).out.drop s.out.length

def emissionsOf : ReducerState → List Step → List (StreamToolCall×List ReducerEvent)
 | _,[]=>[]
 | s, .call tc::steps=>(tc,emitted s tc)::emissionsOf (s.readToolCall tc) steps
 | s,step::steps=>emissionsOf (readStep s step) steps

/-- The fragment of a block that carries the arguments of a fragment from upstream. -/
def deltas (block:ℕ) (tc:StreamToolCall) : List ReducerEvent :=
 if tc.argumentsText.isEmpty then [] else [.toolDelta block tc.argumentsText]

/-- The first fragment of an index opens a block of its own, with its id and name, and every
fragment of an index goes to the block that was opened for it. -/
def Attributed : List (ℕ×ℕ) → List (StreamToolCall×List ReducerEvent) → Prop
 | _,[]=>True
 | blocks,(tc,events)::rest=>
  match blocks.lookup tc.index with
  | none=>∃ block,block ∉ blocks.map Prod.snd ∧
   events=.toolStart block tc.idText tc.nameText::deltas block tc ∧
   Attributed ((tc.index,block)::blocks) rest
  | some block=>events=deltas block tc ∧ Attributed blocks rest

/-- The blocks that are opened, counted on the input alone. -/
structure Numbering where
 next : ℕ
 thinking : Bool
 text : Bool
 blocks : List (ℕ×ℕ)

namespace Numbering

def new : Numbering := ⟨0,false,false,[]⟩

def read (n:Numbering) : Step → Numbering
 | .reasoning _=>if n.thinking then n else { n with next := n.next+1,thinking := true }
 | .content _=>
  if n.text then { n with thinking := false }
  else { n with next := n.next+1,thinking := false,text := true }
 | .tools=>{ n with thinking := false,text := false }
 | .call tc=>match n.blocks.lookup tc.index with
  | some _=>n
  | none=>{ n with next := n.next+1,blocks := (tc.index,n.next)::n.blocks }

/-- The index of a new call is not the number of an earlier call's block; and the index of a call
that goes on is the number of its own block, or its fragment says nothing. -/
def Met (n:Numbering) (tc:StreamToolCall) : Prop :=
 match n.blocks.lookup tc.index with
 | none=>tc.index ∉ n.blocks.map Prod.snd
 | some block=>block=tc.index ∨ tc.argumentsText.isEmpty=true ∧
  (tc.index∈n.blocks.map Prod.snd ∨ tc.idText.isEmpty=true ∨ tc.nameText.isEmpty=true)

end Numbering

def Numbered : Numbering → List Step → Prop
 | _,[]=>True
 | n, .call tc::steps=>n.Met tc ∧ Numbered (n.read (.call tc)) steps
 | n,step::steps=>Numbered (n.read step) steps

def FirstNamed (calls:List StreamToolCall) : Prop :=
 ∀ before tc after,calls=before++tc::after → (∀ other∈before,other.index≠tc.index) → tc.idText ≠ "" ∧ tc.nameText ≠ ""

/-- The reducer has opened the blocks that were counted. -/
structure Agrees (s:ReducerState) (n:Numbering) : Prop where
 next : s.nextBlockIndex=n.next
 thinking : s.thinkingIndex.isSome=n.thinking
 text : s.textIndex.isSome=n.text
 slots : ∀ block,block∈s.toolSlots.map ToolSlot.blockIndex ↔ block∈n.blocks.map Prod.snd
 fresh : ∀ block∈n.blocks.map Prod.snd,block<n.next

section agreement
variable {s:ReducerState} {n:Numbering} {tc:StreamToolCall}

theorem Agrees.closeThinking (h:Agrees s n) : Agrees s.closeThinking { n with thinking := false }:=by
 unfold ReducerState.closeThinking
 cases hcase:s.thinkingIndex with
 | none=>exact ⟨h.next,by rw [hcase]; rfl,h.text,h.slots,h.fresh⟩
 | some index=>exact ⟨h.next,rfl,h.text,h.slots,h.fresh⟩

theorem Agrees.closeText (h:Agrees s n) : Agrees s.closeText { n with text := false }:=by
 unfold ReducerState.closeText
 cases hcase:s.textIndex with
 | none=>exact ⟨h.next,h.thinking,by rw [hcase]; rfl,h.slots,h.fresh⟩
 | some index=>exact ⟨h.next,h.thinking,rfl,h.slots,h.fresh⟩

theorem Agrees.readReasoning (h:Agrees s n) (text:String) :
 Agrees (s.readReasoning text) (n.read (.reasoning text)):=by
 unfold ReducerState.readReasoning Numbering.read
 cases hcase:s.thinkingIndex with
 | some index=>
  have hthinking:n.thinking=true:=by
   rw [← h.thinking,hcase]
   rfl
  dsimp only
  rw [if_pos hthinking]
  exact ⟨h.next,hthinking.symm,h.text,h.slots,h.fresh⟩
 | none=>
  have hthinking:n.thinking=false:=by
   rw [← h.thinking,hcase]
   rfl
  dsimp only
  rw [hthinking,if_neg Bool.false_ne_true]
  exact ⟨congrArg (· + 1) h.next,rfl,h.text,h.slots,
   fun block hblock=>Nat.lt_succ_of_lt (h.fresh block hblock)⟩

theorem Agrees.readContent (h:Agrees s n) (text:String) : Agrees (s.readContent text) (n.read (.content text)):=by
 have hclosed:=h.closeThinking
 unfold ReducerState.readContent Numbering.read
 dsimp only
 cases hcase:s.closeThinking.textIndex with
 | some index=>
  have htext:n.text=true:=by
   rw [← hclosed.text,hcase]
   rfl
  dsimp only
  rw [if_pos htext]
  exact ⟨hclosed.next,hclosed.thinking,htext.symm,hclosed.slots,hclosed.fresh⟩
 | none=>
  have htext:n.text=false:=by
   rw [← hclosed.text,hcase]
   rfl
  dsimp only
  rw [htext,if_neg Bool.false_ne_true]
  exact ⟨congrArg (· + 1) hclosed.next,hclosed.thinking,rfl,hclosed.slots,
   fun block hblock=>Nat.lt_succ_of_lt (hclosed.fresh block hblock)⟩

theorem Agrees.find_isSome (h:Agrees s n) (index:ℕ) :
 (s.toolSlots.find? fun slot=>slot.blockIndex=index).isSome=true ↔
  index∈n.blocks.map Prod.snd:=by
 rw [← h.slots,List.find?_isSome,List.mem_map]
 constructor
 · rintro ⟨slot,hslot,hindex⟩
   exact ⟨slot,hslot,of_decide_eq_true hindex⟩
 · rintro ⟨slot,hslot,hindex⟩
   exact ⟨slot,hslot,decide_eq_true hindex⟩

theorem pushArguments_eq (s:ReducerState) (block:ℕ) (tc:StreamToolCall) :
 s.pushArguments block tc={ s with out := s.out++deltas block tc }:=by
 unfold ReducerState.pushArguments deltas
 split_ifs
 · rw [List.append_nil]
 · rfl

theorem readToolCall_found (h:Agrees s n) (hindex:tc.index∈n.blocks.map Prod.snd) :
 s.readToolCall tc={ s with out := s.out++deltas tc.index tc }:=by
 obtain ⟨slot,hslot⟩:=Option.isSome_iff_exists.mp ((h.find_isSome tc.index).mpr hindex)
 have hfound:=List.find?_some hslot
 have hsame:slot.blockIndex=tc.index:=of_decide_eq_true hfound
 unfold ReducerState.readToolCall
 rw [hslot]
 dsimp only
 rw [pushArguments_eq,hsame]

theorem find_none (h:Agrees s n) (hindex:tc.index ∉ n.blocks.map Prod.snd) :
 (s.toolSlots.find? fun slot=>slot.blockIndex=tc.index)=none:=by
 rw [← Option.not_isSome_iff_eq_none,h.find_isSome]
 exact hindex

theorem readToolCall_skipped (h:Agrees s n) (hindex:tc.index ∉ n.blocks.map Prod.snd)
 (hnameless:tc.idText.isEmpty=true ∨ tc.nameText.isEmpty=true) : s.readToolCall tc=s:=by
 unfold ReducerState.readToolCall
 rw [find_none h hindex]
 dsimp only
 rw [if_pos (Bool.or_eq_true_iff.mpr hnameless)]

theorem readToolCall_opened (h:Agrees s n) (hindex:tc.index ∉ n.blocks.map Prod.snd)
 (hnamed:¬(tc.idText.isEmpty=true ∨ tc.nameText.isEmpty=true)) :
 s.readToolCall tc={ s with
  sawToolCalls := true
  nextBlockIndex := s.nextBlockIndex+1
  toolSlots := s.toolSlots++[⟨s.nextBlockIndex,tc.idText,tc.nameText⟩]
  out := s.out ++ .toolStart s.nextBlockIndex tc.idText tc.nameText ::
   deltas s.nextBlockIndex tc }:=by
 unfold ReducerState.readToolCall
 rw [find_none h hindex]
 dsimp only
 rw [if_neg fun hnameless=>hnamed (Bool.or_eq_true_iff.mp hnameless),pushArguments_eq,
  List.append_assoc]
 rfl

theorem emitted_of_out {events:List ReducerEvent} (h:(s.readToolCall tc).out=s.out++events) : emitted s tc=events:=by
 unfold emitted
 rw [h,List.drop_left]

theorem deltas_inj {block block':ℕ} :
 deltas block tc=deltas block' tc ↔ block=block' ∨ tc.argumentsText.isEmpty=true:=by
 unfold deltas
 split_ifs with hempty
 · exact iff_of_true rfl (Or.inr hempty)
 · constructor
   · intro heq
     exact Or.inl (ReducerEvent.toolDelta.inj (List.cons.inj heq).1).1
   · rintro (rfl | hempty')
     · rfl
     · exact absurd hempty' hempty

theorem start_ne_deltas (block block':ℕ) (id name:String) (rest:List ReducerEvent) :
 ReducerEvent.toolStart block id name::rest≠deltas block' tc:=by
 unfold deltas
 split_ifs
 · exact List.cons_ne_nil _ _
 · intro heq
   exact (nomatch (List.cons.inj heq).1)

theorem read_first (h:n.blocks.lookup tc.index=none) : n.read (.call tc) =
 { n with next := n.next+1,blocks := (tc.index,n.next)::n.blocks }:=by
 unfold Numbering.read
 dsimp only
 rw [h]

theorem read_later {block:ℕ} (h:n.blocks.lookup tc.index=some block) : n.read (.call tc)=n:=by
 unfold Numbering.read
 dsimp only
 rw [h]

theorem Agrees.opened (h:Agrees s n) (hlookup:n.blocks.lookup tc.index=none) (hindex:tc.index ∉ n.blocks.map Prod.snd)
 (hnamed:¬(tc.idText.isEmpty=true ∨ tc.nameText.isEmpty=true)) : Agrees (s.readToolCall tc) (n.read (.call tc)):=by
 rw [readToolCall_opened h hindex hnamed,read_first hlookup]
 refine ⟨congrArg (· + 1) h.next,h.thinking,h.text,fun block=>?_,fun block hblock=>?_⟩
 · rw [List.map_append,List.mem_append,h.slots,List.map_cons,List.mem_cons,← h.next]
   rw [List.map_nil,List.map_cons,List.mem_cons]
   simp only [List.not_mem_nil,or_false]
   exact or_comm
 · rcases List.mem_cons.mp hblock with rfl | hold
   · exact Nat.lt_succ_self _
   · exact Nat.lt_succ_of_lt (h.fresh block hold)

theorem Agrees.continued (h:Agrees s n) {block:ℕ}
 (hlookup:n.blocks.lookup tc.index=some block) {events:List ReducerEvent}
 (hread:s.readToolCall tc={ s with out := s.out++events }) :
 Agrees (s.readToolCall tc) (n.read (.call tc)):=by
 rw [hread,read_later hlookup]
 exact ⟨h.next,h.thinking,h.text,h.slots,h.fresh⟩

theorem mem_of_lookup {blocks:List (ℕ×ℕ)} {index block:ℕ}
 (h:blocks.lookup index=some block) : block∈blocks.map Prod.snd:=by
 obtain ⟨before,after,rfl,-⟩:=List.lookup_eq_some_iff.mp h
 exact List.mem_map_of_mem (List.mem_append_right before List.mem_cons_self)

theorem named_iff : ¬(tc.idText.isEmpty=true ∨ tc.nameText.isEmpty=true) ↔ tc.idText ≠ "" ∧ tc.nameText ≠ "" := by
 rw [String.isEmpty_iff,String.isEmpty_iff,not_or]

theorem lookup_read {index:ℕ} (h:(n.read (.call tc)).blocks.lookup index=none) :
 n.blocks.lookup index=none ∧ tc.index≠index:=by
 cases hlookup:n.blocks.lookup tc.index with
 | some block=>
  rw [read_later hlookup] at h
  refine ⟨h,fun hsame=>?_⟩
  rw [hsame] at hlookup
  exact absurd (hlookup.symm.trans h) (nofun)
 | none=>
  rw [read_first hlookup,List.lookup_cons] at h
  cases hsame:index==tc.index with
  | true=>
   rw [hsame] at h
   exact (nomatch h)
  | false=>
   rw [hsame] at h
   exact ⟨h,fun heq=>by simp [heq] at hsame⟩

section fragment
variable {rest:List (StreamToolCall×List ReducerEvent)} {more:Prop}

theorem attributed_first (h:Agrees s n) (hlookup:n.blocks.lookup tc.index=none)
 (hnamed:tc.idText ≠ "" ∧ tc.nameText ≠ "")
 (hrest:Agrees (s.readToolCall tc) (n.read (.call tc)) → (Attributed (n.read (.call tc)).blocks rest ↔ more)) :
 Attributed n.blocks ((tc,emitted s tc)::rest) ↔ n.Met tc ∧ more:=by
 unfold Attributed Numbering.Met
 rw [hlookup]
 dsimp only
 by_cases hindex:tc.index∈n.blocks.map Prod.snd
 · -- The first fragment of a call goes to the block of another one.
   have hread:=readToolCall_found h hindex
   have hemitted:emitted s tc=deltas tc.index tc:=emitted_of_out (by rw [hread])
   refine iff_of_false ?_ fun hmet=>hmet.1 hindex
   rintro ⟨block,-,hevents,-⟩
   rw [hemitted] at hevents
   exact start_ne_deltas _ _ _ _ _ hevents.symm
 · have hnonempty:=named_iff.mpr hnamed
   have hread:=readToolCall_opened h hindex hnonempty
   have hemitted:emitted s tc=.toolStart s.nextBlockIndex tc.idText tc.nameText ::
    deltas s.nextBlockIndex tc := emitted_of_out (by rw [hread])
   have hread':(n.read (.call tc)).blocks=(tc.index,n.next)::n.blocks:=by
    rw [read_first hlookup]
   have hnext:=hrest (h.opened hlookup hindex hnonempty)
   rw [hread'] at hnext
   rw [hemitted,h.next,← hnext]
   constructor
   · rintro ⟨block,-,hevents,hmore⟩
     obtain ⟨rfl,-⟩:=ReducerEvent.toolStart.inj (List.cons.inj hevents).1
     exact ⟨hindex,hmore⟩
   · rintro ⟨-,hmore⟩
     exact ⟨n.next,fun hold=>absurd (h.fresh _ hold) (lt_irrefl _),rfl,hmore⟩

theorem attributed_later (h:Agrees s n) {block:ℕ} (hlookup:n.blocks.lookup tc.index=some block)
 (hrest:Agrees (s.readToolCall tc) (n.read (.call tc)) → (Attributed (n.read (.call tc)).blocks rest ↔ more)) :
 Attributed n.blocks ((tc,emitted s tc)::rest) ↔ n.Met tc ∧ more:=by
 have hread':(n.read (.call tc)).blocks=n.blocks:=by rw [read_later hlookup]
 rw [hread'] at hrest
 unfold Attributed Numbering.Met
 rw [hlookup]
 dsimp only
 by_cases hindex:tc.index∈n.blocks.map Prod.snd
 · have hread:=readToolCall_found h hindex
   have hemitted:emitted s tc=deltas tc.index tc:=emitted_of_out (by rw [hread])
   rw [hemitted,deltas_inj,hrest (h.continued hlookup hread),eq_comm (a := block)]
   refine and_congr_left' (or_congr_right ?_)
   exact ⟨fun hempty=>⟨hempty,Or.inl hindex⟩,fun hempty=>hempty.1⟩
 · have hother:block≠tc.index:=fun hsame=>hindex (hsame ▸ mem_of_lookup hlookup)
   by_cases hnameless:tc.idText.isEmpty=true ∨ tc.nameText.isEmpty=true
   · have hread:=readToolCall_skipped h hindex hnameless
     have hemitted:emitted s tc=[]:=emitted_of_out (by rw [hread,List.append_nil])
     rw [hemitted,hrest (h.continued hlookup (by rw [hread,List.append_nil]))]
     refine and_congr_left' ?_
     unfold deltas
     split_ifs with hempty
     · exact iff_of_true rfl (Or.inr ⟨hempty,Or.inr hnameless⟩)
     · refine iff_of_false (fun hnil=>(nomatch hnil)) ?_
       rintro (hsame | ⟨hempty',-⟩)
       · exact hother hsame
       · exact hempty hempty'
   · -- A later fragment with an id and a name opens a second call.
     have hread:=readToolCall_opened h hindex hnameless
     have hemitted:emitted s tc=.toolStart s.nextBlockIndex tc.idText tc.nameText ::
      deltas s.nextBlockIndex tc := emitted_of_out (by rw [hread])
     rw [hemitted]
     refine iff_of_false (fun hevents=>start_ne_deltas _ _ _ _ _ hevents.1) ?_
     rintro ⟨hsame | ⟨-,hfound | hempty⟩,-⟩
     · exact hother hsame
     · exact hindex hfound
     · exact hnameless hempty

end fragment

theorem attributed_iff (steps:List Step) : ∀ (s:ReducerState) (n:Numbering),Agrees s n →
 (∀ before tc after,callsOf steps=before++tc::after →
  n.blocks.lookup tc.index=none → (∀ other∈before,other.index≠tc.index) → tc.idText ≠ "" ∧ tc.nameText ≠ "") →
 (Attributed n.blocks (emissionsOf s steps) ↔ Numbered n steps):=by
 induction steps with
 | nil=>exact fun _ _ _ _=>iff_of_true trivial trivial
 | cons step steps ih=>
  intro s n hagrees hnamed
  cases step with
  | reasoning text=>
   have hblocks:(n.read (.reasoning text)).blocks=n.blocks:=by
    unfold Numbering.read
    dsimp only
    split_ifs <;> rfl
   have hrest:=ih _ _ (hagrees.readReasoning text) (hblocks.symm ▸ hnamed)
   rw [hblocks] at hrest
   exact hrest
  | content text=>
   have hblocks:(n.read (.content text)).blocks=n.blocks:=by
    unfold Numbering.read
    dsimp only
    split_ifs <;> rfl
   have hrest:=ih _ _ (hagrees.readContent text) (hblocks.symm ▸ hnamed)
   rw [hblocks] at hrest
   exact hrest
  | tools=>exact ih _ _ hagrees.closeThinking.closeText hnamed
  | call tc=>
   have hlater:∀ before other after,callsOf steps=before++other::after →
    (n.read (.call tc)).blocks.lookup other.index=none →
    (∀ earlier∈before,earlier.index≠other.index) → other.idText ≠ "" ∧ other.nameText ≠ "" := by
    intro before other after hsplit hnone hbefore
    have hold:=lookup_read hnone
    refine hnamed (tc::before) other after ?_ hold.1 fun earlier hearlier=>?_
    · change tc::callsOf steps=_
      rw [hsplit]
      rfl
    · rcases List.mem_cons.mp hearlier with rfl | hmem
      · exact hold.2
      · exact hbefore earlier hmem
   have hrest:Agrees (s.readToolCall tc) (n.read (.call tc)) →
    (Attributed (n.read (.call tc)).blocks (emissionsOf (s.readToolCall tc) steps) ↔
     Numbered (n.read (.call tc)) steps) := fun h=>ih _ _ h hlater
   cases hlookup:n.blocks.lookup tc.index with
   | none=>
    exact attributed_first hagrees hlookup
     (hnamed [] tc (callsOf steps) rfl hlookup fun _ hmem=>(nomatch hmem)) hrest
   | some block=>exact attributed_later hagrees hlookup hrest

end agreement
end CursorProxy.KimiToolCalls
