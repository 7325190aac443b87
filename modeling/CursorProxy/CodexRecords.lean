import CursorProxy.CodexAccounts
import CursorProxy.CodexOrderly

namespace CursorProxy.CodexRecords
open JsonValues CodexReducer ReducerState CodexSeen CodexAccounts CodexOrderly

variable {env:CodexEnv} {state next:ReducerState} {payload:JsonValue}

/-- A signature is recorded at an output index where an answer is recorded already. -/
def Overwrites (env:CodexEnv) (state:ReducerState) (outputIndex:ℕ) : Prop :=
 (state.takeSignature env outputIndex).isSome ∧ Answered state outputIndex

/-- The signature of the active thinking is recorded over an answer. -/
def ThinkingOverwrites (env:CodexEnv) (state:ReducerState) : Prop :=
 ∃ active,state.activeThinking=some active ∧ Overwrites env state active.outputIndex

def Silent : BlockState → Prop
 | .text _ textAccum=>textAccum = ""
 | .tool _=>False

def AllSilent (state:ReducerState) : Prop :=
 ∀ key block,state.blocksByOutputIndex.lookup key=some block → Silent block

def KeepsAdded (env:CodexEnv) (state:ReducerState) (payload:JsonValue) : Prop :=
 ∀ item,payload.get "item" = some item →
  (strField "type" item = "message" ∨ strField "type" item = "function_call") →
   ¬ThinkingOverwrites env state ∧
    ∀ block,state.blocksByOutputIndex.lookup ((outputIndexOf payload).getD 0)=some block → Silent block

def KeepsSummary (env:CodexEnv) (state:ReducerState) (payload:JsonValue) : Prop :=
 strField "delta" payload ≠ "" → ∀ active,state.activeThinking=some active →
  active.outputIndex≠(outputIndexOf payload).getD 0 → ¬Overwrites env state active.outputIndex

/-- Arguments that grow have been written from the first; and what a repair leaves open says
nothing. -/
def KeepsArguments (env:CodexEnv) (state:ReducerState) (payload:JsonValue) : Prop :=
 ∀ outputIndex block,outputIndexOf payload=some outputIndex → strField "delta" payload ≠ "" →
  state.blocksByOutputIndex.lookup outputIndex=some (.tool block) →
   (block.bufferUntilDone=false → block.emittedArgs=true ∨ block.argsAccum = "") ∧
   (block.bufferUntilDone=true → (repairWhitespaceStalledReadArgs env block.name
    (block.argsAccum++strField "delta" payload)).isSome → ¬Answered state outputIndex ∧
     ∀ other open',other≠outputIndex → state.blocksByOutputIndex.lookup other=some open' → Silent open')

/-- A block that is closed without its item was written already, and it is not recorded over an
answer. -/
def KeepsBlock (state:ReducerState) (outputIndex:ℕ) (item:Option JsonValue) : Prop :=
 ∀ block,state.blocksByOutputIndex.lookup outputIndex=some block →
  (¬Silent block → ¬Answered state outputIndex) ∧
   ∀ tool,block=.tool tool → item=none → tool.emittedArgs=true ∨ tool.argsAccum = ""

def KeepsReasoning (env:CodexEnv) (state:ReducerState) (outputIndex:ℕ) (item:JsonValue) : Prop :=
 let captured:=state.captureReasoning outputIndex item
 ¬ThinkingOverwrites env captured ∧
  ((state.activeThinking.any fun active=>active.outputIndex==outputIndex)=false →
   ¬Overwrites env (captured.closeThinking env) outputIndex)

def typed (itemType:String) (item:Option JsonValue) : Option JsonValue :=
 item.filter fun item=>(item.get "type").bind JsonValue.asStr==some itemType

def KeepsDone (env:CodexEnv) (state:ReducerState) (payload:JsonValue) : Prop :=
 let outputIndex:=(outputIndexOf payload).getD 0
 let item:=payload.get "item"
 match typed "reasoning" item with
 | some item=>KeepsReasoning env state outputIndex item
 | none=>
  match typed "web_search_call" item with
  | some _=>¬ThinkingOverwrites env state
  | none=>KeepsBlock state outputIndex item

def summaryDelta : String := "response.reasoning_summary_text.delta"
def textDelta : String := "response.output_text.delta"
def itemDone : String := "response.output_item.done"

structure Keeps (env:CodexEnv) (state:ReducerState) (payload:JsonValue) : Prop where
 added : strField "type" payload=itemAdded → KeepsAdded env state payload
 summary : strField "type" payload=summaryDelta → KeepsSummary env state payload
 text : strField "type" payload=textDelta → ¬ThinkingOverwrites env state
 arguments : strField "type" payload=argumentsDelta → KeepsArguments env state payload
 done : strField "type" payload=itemDone → KeepsDone env state payload

/-- Every event of a stream keeps what was seen and what is recorded the same, and so does the
thinking that is closed at its end. -/
def Faithful (env:CodexEnv) : ReducerState → List JsonValue → Prop
 | state,[]=>¬ThinkingOverwrites env state
 | state,payload::payloads=>
  Keeps env state payload ∧
   match reduceEvent env state payload with
   | .ok (.going next)=>Faithful env next payloads
   | _=>True

/-- What holds of a tool block as long as it is open. -/
structure Proper (block:ToolBlock) : Prop where
 buffered : block.bufferUntilDone=shouldBufferToolArgs block.name
 emitted : block.emittedArgs=true → block.hadDelta=true ∧ block.bufferUntilDone=false ∧ block.argsAccum ≠ ""

def ProperBlocks (state:ReducerState) : Prop :=
 ∀ key block,state.blocksByOutputIndex.lookup key=some (.tool block) → Proper block

variable {key:ℕ}

theorem ProperBlocks.insert (h:ProperBlocks state) {block:BlockState} (hblock:∀ tool,block=.tool tool → Proper tool)
 (hnext:next.blocksByOutputIndex=state.blocksByOutputIndex.insert key block) : ProperBlocks next:=by
 intro other tool hother
 rw [hnext] at hother
 by_cases hkey:other=key
 · rw [hkey,AList.lookup_insert] at hother
   exact hblock tool (Option.some.inj hother)
 · rw [AList.lookup_insert_ne hkey] at hother
   exact h other tool hother

theorem ProperBlocks.erase (h:ProperBlocks state)
 (hnext:next.blocksByOutputIndex=state.blocksByOutputIndex.erase key) : ProperBlocks next:=by
 intro other tool hother
 rw [hnext] at hother
 by_cases hkey:other=key
 · rw [hkey,AList.lookup_erase] at hother
   exact absurd hother (by simp)
 · rw [AList.lookup_erase_ne hkey] at hother
   exact h other tool hother

theorem ProperBlocks.same (h:ProperBlocks state)
 (hnext:next.blocksByOutputIndex=state.blocksByOutputIndex) : ProperBlocks next:=by
 intro key tool htool
 rw [hnext] at htool
 exact h key tool htool

theorem silent_iff (block:BlockState) : Silent block ↔ (heldOf block).2.counts=false:=by
 cases block with
 | text index textAccum=>
  unfold Silent heldOf Seen.counts
  dsimp only
  rw [Bool.not_eq_false',String.isEmpty_iff]
 | tool block=>exact iff_of_false id (by simp [heldOf,Seen.counts])

theorem recorded_reasoning (items:AList fun _ : ℕ=>ResponsesInputItem) (key:ℕ)
 (replay:ReasoningReplay) :
 recorded (items.insert key (reasoningInputItem replay))=recorded (items.erase key):=by
 rw [recorded_insert]
 exact zero_add _

theorem carries_signature {outputIndex:ℕ} (events:List ReducerEvent)
 (hmute:∀ event∈events,Mute event) (hout:next.out=state.out++events)
 (hblocks:next.blocksByOutputIndex=state.blocksByOutputIndex)
 (hitems:next.outputItemsByIndex=match state.takeSignature env outputIndex with
  | some (replay,_)=>
   state.outputItemsByIndex.insert outputIndex (reasoningInputItem replay)
  | none=>state.outputItemsByIndex)
 (hindex:state.anthropicIndex ≤ next.anthropicIndex) :
 Carries state next (¬Overwrites env state outputIndex):=by
 cases hsignature:state.takeSignature env outputIndex with
 | none=>
  rw [hsignature] at hitems
  refine Carries.of_iff (carries_mute events hmute hout (congrArg openBlocks hblocks)
   (congrArg recorded hitems) hindex) (iff_of_true trivial fun hover=>?_)
  rw [Overwrites,hsignature] at hover
  exact absurd hover.1 (by simp)
 | some signed=>
  rw [hsignature] at hitems
  have hrecorded:=(congrArg recorded hitems).trans (recorded_reasoning _ _ signed.1)
  refine Carries.of_iff ((carries_unrecord state outputIndex).trans
   (carries_mute events hmute hout (congrArg openBlocks hblocks) hrecorded hindex)) ?_
  rw [and_true,Overwrites,hsignature]
  simp

theorem closeThinking_blocks (env:CodexEnv) (state:ReducerState) :
 (state.closeThinking env).blocksByOutputIndex=state.blocksByOutputIndex:=by
 unfold closeThinking
 split
 · unfold finalizeActiveThinking
   dsimp only
   split <;> rfl
 · rfl

theorem finalizeActiveThinking_carries (env:CodexEnv) (state:ReducerState)
 (active:ActiveThinking) : Carries state (state.finalizeActiveThinking env active)
  (¬Overwrites env state active.outputIndex):=by
 unfold finalizeActiveThinking
 dsimp only
 cases hsignature:state.takeSignature env active.outputIndex with
 | none=>
  refine carries_signature [.thinkingStop active.anthropicIndex] ?_ rfl rfl ?_ le_rfl
  · simp [Mute,Within]
  · rw [hsignature]
    rfl
 | some signed=>
  refine carries_signature [.thinkingSignature active.anthropicIndex signed.2,
   .thinkingStop active.anthropicIndex] ?_ ?_ rfl ?_ le_rfl
  · simp [Mute,Within]
  · exact List.append_assoc _ _ _
  · rw [hsignature]
    rfl

theorem closeThinking_carries (env:CodexEnv) (state:ReducerState) :
 Carries state (state.closeThinking env) (¬ThinkingOverwrites env state):=by
 unfold closeThinking ThinkingOverwrites
 cases hactive:state.activeThinking with
 | none=>
  refine Carries.of_iff (carries_same rfl rfl rfl le_rfl) (iff_of_true trivial ?_)
  rintro ⟨active,hnone,_⟩
  exact absurd hnone (by simp)
 | some active=>
  have hquiet:Carries state { state with activeThinking:=none } True :=
   carries_same rfl rfl rfl le_rfl
  refine Carries.of_iff (hquiet.trans (finalizeActiveThinking_carries env _ active)) ?_
  rw [true_and]
  constructor
  · rintro hnot ⟨other,hother,hover⟩
    rw [← Option.some.inj hother] at hover
    exact hnot hover
  · exact fun hnot hover=>hnot ⟨active,rfl,hover⟩

theorem emitSignatureOnlyReasoning_carries (env:CodexEnv) (state:ReducerState)
 (outputIndex:ℕ) : Carries state (state.emitSignatureOnlyReasoning env outputIndex)
  (¬Overwrites env state outputIndex):=by
 unfold emitSignatureOnlyReasoning
 dsimp only
 cases hsignature:state.takeSignature env outputIndex with
 | none=>
  refine carries_signature [] ?_ (List.append_nil _).symm rfl ?_ le_rfl
  · simp
  · rw [hsignature]
    rfl
 | some signed=>
  refine carries_signature [.thinkingStart state.anthropicIndex,
   .thinkingSignature state.anthropicIndex signed.2,.thinkingStop state.anthropicIndex] ?_ ?_
   rfl ?_ (Nat.le_succ _)
  · simp [Mute,Within]
  · exact (List.append_assoc _ _ _).trans (List.append_assoc _ _ _)
  · rw [hsignature]
    rfl

theorem openBlock_carries {noted:ReducerState} {event:ReducerEvent} {block:BlockState}
 (outputIndex:ℕ) (hout:noted.out=state.out) (hblocks:noted.blocksByOutputIndex=state.blocksByOutputIndex)
 (hitems:noted.outputItemsByIndex=state.outputItemsByIndex)
 (hindex:noted.anthropicIndex=state.anthropicIndex) (hown:(heldOf block).1=state.anthropicIndex)
 (hstarts:Starts state.anthropicIndex event (heldOf block).2) :
 Carries state (openBlock noted outputIndex block event)
  (∀ open',state.blocksByOutputIndex.lookup outputIndex=some open' → Silent open'):=by
 have hopens:Carries { state with
  blocksByOutputIndex := state.blocksByOutputIndex.erase outputIndex }
   (openBlock noted outputIndex block event) True:=by
  refine carries_open hstarts (congrArg (· ++ [event]) hout) ?_ hitems (congrArg (· + 1) hindex)
  refine (openBlocks_insert _ _ _).trans ?_
  rw [hblocks]
  exact congrArg (· ::ₘ _) (Prod.ext hown rfl)
 refine Carries.of_iff ((carries_drop state outputIndex).trans hopens) ?_
 rw [and_true]
 exact forall₂_congr fun open' _=>(silent_iff open').symm

theorem reduceMessageAdded_carries (env:CodexEnv) (state:ReducerState) (outputIndex:ℕ)
 (item:JsonValue) : Carries state (reduceMessageAdded env state outputIndex item)
  (¬ThinkingOverwrites env state ∧
   ∀ block,state.blocksByOutputIndex.lookup outputIndex=some block → Silent block):=by
 rw [← closeThinking_blocks env state]
 refine (closeThinking_carries env state).trans ?_
 unfold reduceMessageAdded
 dsimp only
 split
 · exact openBlock_carries outputIndex rfl rfl rfl rfl rfl .text
 · exact openBlock_carries outputIndex rfl rfl rfl rfl rfl .text

theorem reduceFunctionCallAdded_carries (env:CodexEnv) (state:ReducerState) (outputIndex:ℕ)
 (item:JsonValue) : Carries state (reduceFunctionCallAdded env state outputIndex item)
  (¬ThinkingOverwrites env state ∧
   ∀ block,state.blocksByOutputIndex.lookup outputIndex=some block → Silent block):=by
 rw [← closeThinking_blocks env state]
 refine (closeThinking_carries env state).trans ?_
 unfold reduceFunctionCallAdded
 exact openBlock_carries outputIndex rfl rfl rfl rfl rfl (.tool _ _)

theorem reduceItemAdded_carries (env:CodexEnv) (state:ReducerState) (payload:JsonValue) :
 Carries state (reduceItemAdded env state payload) (KeepsAdded env state payload):=by
 have hquiet:∀ next:ReducerState,Carries state next True →
  (∀ item,payload.get "item" = some item →
   ¬(strField "type" item = "message" ∨ strField "type" item = "function_call")) →
  Carries state next (KeepsAdded env state payload) := fun next h hnone=>
  Carries.of_iff h (iff_of_true trivial fun item hitem htype=>absurd htype (hnone item hitem))
 have hopens:∀ (next:ReducerState) (item:JsonValue),payload.get "item" = some item →
  (strField "type" item = "message" ∨ strField "type" item = "function_call") →
  Carries state next (¬ThinkingOverwrites env state ∧
   ∀ block,state.blocksByOutputIndex.lookup ((outputIndexOf payload).getD 0)=some block →
    Silent block) → Carries state next (KeepsAdded env state payload):=by
  intro next item hitem htype h
  refine Carries.of_iff h ⟨fun hkeeps _ _ _=>hkeeps,fun hkeeps=>hkeeps item hitem htype⟩
 unfold reduceItemAdded
 cases hitem:payload.get "item" with
 | none=>
  refine hquiet _ (carries_same rfl rfl rfl le_rfl) fun item hsome=>?_
  exact absurd (hitem.symm.trans hsome) (by simp)
 | some item=>
  have hother:∀ itemType,itemType ≠ "message" → itemType ≠ "function_call" →
   strField "type" item=itemType → ∀ other,payload.get "item" = some other →
    ¬(strField "type" other = "message" ∨ strField "type" other = "function_call"):=by
   rintro itemType hmessage hcall rfl other hsame
   obtain rfl:=Option.some.inj (hitem.symm.trans hsame)
   exact not_or.mpr ⟨hmessage,hcall⟩
  dsimp only
  split
  · rename_i htype
    exact hquiet _ (carries_same rfl rfl rfl le_rfl)
     (hother "reasoning" (by decide) (by decide) (beq_iff_eq.mp htype))
  · split
    · rename_i htype
      exact hquiet _ (carries_mute [.progress] (by simp [Mute,Within]) rfl rfl rfl le_rfl)
       (hother "web_search_call" (by decide) (by decide) (beq_iff_eq.mp htype))
    · split
      · rename_i htype
        exact hopens _ item hitem (.inl (beq_iff_eq.mp htype)) (reduceMessageAdded_carries env state _ item)
      · split
        · rename_i htype
          exact hopens _ item hitem (.inr (beq_iff_eq.mp htype)) (reduceFunctionCallAdded_carries env state _ item)
        · rename_i hmessage hcall
          exact hquiet _ (carries_same rfl rfl rfl le_rfl)
           (hother _ (fun htype=>hmessage (beq_iff_eq.mpr htype))
            (fun htype=>hcall (beq_iff_eq.mpr htype)) rfl)

theorem reduceSummaryPartAdded_carries (payload:JsonValue) :
 Carries state (reduceSummaryPartAdded state payload) True:=by
 unfold reduceSummaryPartAdded
 split
 · split
   · exact carries_mute [_] (by simp [Mute,Within]) rfl rfl rfl le_rfl
   · exact carries_same rfl rfl rfl le_rfl
 · exact carries_same rfl rfl rfl le_rfl

theorem reduceSummaryDelta_carries (env:CodexEnv) (state:ReducerState) (payload:JsonValue) :
 Carries state (reduceSummaryDelta env state payload) (KeepsSummary env state payload):=by
 unfold reduceSummaryDelta KeepsSummary
 dsimp only
 split
 · rename_i hempty
   refine Carries.of_iff (carries_same rfl rfl rfl le_rfl) (iff_of_true trivial fun hdelta=>?_)
   exact absurd (String.isEmpty_iff.mp hempty) hdelta
 · rename_i hdelta
   rw [String.isEmpty_iff] at hdelta
   split
   · rename_i active hactive
     obtain ⟨hactive,hsame⟩:=Option.filter_eq_some_iff.mp hactive
     refine Carries.of_iff (carries_mute [_] (by simp [Mute,Within]) rfl rfl rfl le_rfl)
      (iff_of_true trivial fun _ other hother hne=>?_)
     rw [← Option.some.inj (hactive.symm.trans hother)] at hne
     exact absurd (of_decide_eq_true hsame) hne
   · rename_i hnone
     refine Carries.of_iff ((closeThinking_carries env state).trans (carries_mute
      [.thinkingStart (state.closeThinking env).anthropicIndex,
       .thinkingDelta (state.closeThinking env).anthropicIndex (strField "delta" payload)]
      (by simp [Mute,Within]) (List.append_assoc _ _ _) rfl rfl (Nat.le_succ _))) ?_
     rw [and_true]
     constructor
     · exact fun hnot _ active hactive _ hover=>hnot ⟨active,hactive,hover⟩
     · rintro hkeeps ⟨active,hactive,hover⟩
       refine hkeeps hdelta active hactive (fun hsame=>?_) hover
       rw [hactive,Option.filter_some,if_pos (decide_eq_true hsame)] at hnone
       exact absurd hnone (by simp)

theorem changes_text (index:ℕ) (textAccum delta:String) :
 Changes (.text index textAccum) (.text index (textAccum++delta)) (some (.textDelta index delta)) True:=by
 refine ⟨rfl,fun one hone=>?_,fun seen hseen=>?_,fun seen hseen=>?_⟩
 · rw [← Option.some.inj hone]
   rfl
 · cases hseen
   simpa [hear,heldOf] using Trails.text (textAccum++delta)
 · cases hseen
   simp [hear,heldOf]

theorem reduceTextDelta_carries (env:CodexEnv) (state:ReducerState) (payload:JsonValue) :
 Carries state (reduceTextDelta env state payload) (¬ThinkingOverwrites env state):=by
 have hclosed:=closeThinking_carries env state
 unfold reduceTextDelta
 dsimp only
 split
 · exact hclosed
 · split
   · rename_i outputIndex index textAccum hfound
     obtain ⟨found,_,hmap⟩:=Option.bind_eq_some_iff.mp hfound
     obtain ⟨block,hblock,hpair⟩:=Option.map_eq_some_iff.mp hmap
     obtain ⟨rfl,rfl⟩:=Prod.mk.inj hpair
     refine Carries.of_iff (hclosed.trans (carries_change hblock
      (changes_text index textAccum (strField "delta" payload)) rfl rfl rfl rfl)) ?_
     rw [and_true]
   · exact hclosed

def argsHeld (block:ToolBlock) : String := if block.emittedArgs then block.argsAccum else ""

def Says (index:ℕ) (piece:String) (event:Option ReducerEvent) : Prop :=
 event=some (.toolDelta index piece) ∨ piece = "" ∧ ∀ one∈event,Mute one

variable {event:Option ReducerEvent} {index:ℕ} {piece:String}

theorem Says.within (h:Says index piece event) : ∀ one∈event,Within index one:=by
 rcases h with rfl | ⟨_,hmute⟩
 · intro one hone
   rw [← Option.some.inj hone]
   rfl
 · exact fun one hone=>hmute one hone index

theorem Says.heard (h:Says index piece event) (id name args:String) :
 (event.elim (Seen.tool id name args) fun one=>(hear one (index,.tool id name args)).2) =
  .tool id name (args++piece):=by
 rcases h with rfl | ⟨rfl,hmute⟩
 · simp [hear]
 · rw [String.append_empty]
   cases event with
   | none=>rfl
   | some one=>exact congrArg Prod.snd (hear_ne (hmute one rfl (index+1))
    (Nat.succ_ne_self index).symm)

theorem changes_tool {block changed:ToolBlock} {lead:String}
 (hindex:changed.index=block.index) (hcall:changed.callId=block.callId)
 (hname:changed.name=block.name) (hpiece:Says block.index piece event)
 (hargs:argsHeld changed=lead++(argsHeld block++piece)) :
 Changes (.tool block) (.tool changed) event (lead = ""):=by
 have hchanged:(heldOf (.tool changed)).2 =
  .tool block.callId block.name (lead++(argsHeld block++piece)):=by
  rw [← hcall,← hname,← hargs]
  rfl
 have hblock:(heldOf (.tool block)).2=.tool block.callId block.name (argsHeld block):=rfl
 obtain ⟨held,hheld⟩ : ∃ held,argsHeld block=held:=⟨_,rfl⟩
 rw [hheld,← String.append_assoc] at hchanged
 rw [hheld] at hblock
 refine ⟨hindex,hpiece.within,fun seen hseen=>?_,fun seen hseen=>?_⟩
 · rw [hblock] at hseen
   obtain _ | ⟨_,_,before,args⟩:=hseen
   rw [hchanged]
   change Trails (event.elim _ fun one=>(hear one (block.index,_)).2) _
   rw [hpiece.heard,← String.append_assoc,String.append_assoc]
   exact .tool _ _ _ _
 · rw [hblock] at hseen ⊢
   obtain _ | ⟨_,_,before,args⟩:=hseen
   rw [hchanged]
   change (event.elim _ fun one=>(hear one (block.index,_)).2)=_ ↔ _
   rw [hpiece.heard,Seen.tool.injEq,Seen.tool.injEq]
   constructor
   · rintro ⟨_,_,hsame⟩
     have hlength:=congrArg String.length hsame
     simp only [String.length_append] at hlength
     have hlead:lead = "" := String.length_eq_zero_iff.mp (by omega)
     have hbefore:before = "" := String.length_eq_zero_iff.mp (by omega)
     rw [hbefore,String.empty_append]
     exact ⟨⟨rfl,rfl,rfl⟩,hlead⟩
   · rintro ⟨⟨_,_,hsame⟩,rfl⟩
     rw [← hsame,String.empty_append]
     exact ⟨rfl,rfl,rfl⟩

/-- Arguments that are held but not written stand before what is written next. -/
def unwritten (block:ToolBlock) : String := if block.emittedArgs then "" else block.argsAccum

theorem argsAccum_eq (block:ToolBlock) : block.argsAccum=unwritten block++argsHeld block:=by
 unfold unwritten argsHeld
 cases block.emittedArgs <;> simp

theorem unwritten_iff (block:ToolBlock) : unwritten block = "" ↔ block.emittedArgs=true ∨ block.argsAccum = "" := by
 unfold unwritten
 cases block.emittedArgs <;> simp

theorem reduceArgumentsDone_carries (hproper:ProperBlocks state) (payload:JsonValue) :
 Carries state (reduceArgumentsDone state payload) True ∧ ProperBlocks (reduceArgumentsDone state payload):=by
 have hsame:Carries state state True:=carries_same rfl rfl rfl le_rfl
 unfold reduceArgumentsDone
 split
 · exact ⟨hsame,hproper⟩
 · split
   · rename_i outputIndex _ _ _ block args hblock _
     have hblockProper:=hproper outputIndex block hblock
     split
     · rename_i hempty
       have hemitted:block.emittedArgs=false:=Bool.eq_false_iff.mpr fun hemitted=>
        (hblockProper.emitted hemitted).2.2 (String.isEmpty_iff.mp hempty)
       have hchanges:Changes (.tool block) (.tool { block with argsAccum:=args }) none
        ("" = ""):=by
        refine changes_tool rfl rfl rfl (.inr ⟨rfl,fun _ hone=>absurd hone (by simp)⟩) ?_
        simp [argsHeld,hemitted]
       refine ⟨Carries.of_iff (carries_change hblock hchanges (List.append_nil _).symm rfl rfl rfl)
        (iff_of_true rfl trivial),hproper.insert (fun tool htool=>?_) rfl⟩
       rw [← BlockState.tool.inj htool]
       exact ⟨hblockProper.buffered,fun h=>absurd (h.symm.trans hemitted) (by simp)⟩
     · exact ⟨hsame,hproper⟩
   · exact ⟨hsame,hproper⟩

theorem carries_closeTool {tool:ToolBlock} (finished:ToolBlock) {lead:String}
 (hblock:state.blocksByOutputIndex.lookup key=some (.tool tool))
 (hcall:finished.callId=tool.callId) (hname:finished.name=tool.name)
 (hpiece:Says tool.index piece event) (hargs:finished.argsAccum=lead++(argsHeld tool++piece))
 (hout:next.out=state.out++event.toList++[.toolStop tool.index])
 (hblocks:next.blocksByOutputIndex=state.blocksByOutputIndex.erase key)
 (hitems:next.outputItemsByIndex=state.outputItemsByIndex.insert key (.functionCall finished.callId finished.name finished.argsAccum))
 (hindex:next.anthropicIndex=state.anthropicIndex) : Carries state next (lead = "" ∧ ¬Answered state key):=by
 let written : ToolBlock:={ finished with index := tool.index,emittedArgs := true }
 let middle : ReducerState:={ state with
  out := state.out++event.toList
  blocksByOutputIndex := state.blocksByOutputIndex.insert key (.tool written) }
 have hchanges:Changes (.tool tool) (.tool written) event (lead = "") :=
  changes_tool rfl hcall hname hpiece hargs
 have hwritten:Carries state middle (lead = ""):=carries_change hblock hchanges rfl rfl rfl rfl
 have herase:middle.blocksByOutputIndex.erase key=state.blocksByOutputIndex.erase key :=
  KeyedEntries.erase_insert _ _ _
 have hclosed:Carries { middle with
  outputItemsByIndex := middle.outputItemsByIndex.erase key } next True:=by
  have hmute:Mute (.toolStop tool.index):=fun _=>trivial
  refine carries_close (AList.lookup_insert _) hmute hout (hblocks.trans herase.symm) ?_ hindex
  rw [hitems,recorded_insert]
  rfl
 refine Carries.of_iff (hwritten.trans ((carries_unrecord middle key).trans hclosed)) ?_
 rw [and_true]
 rfl

def Ends (last:ReducerState) (out:List ReducerEvent) : Prop :=
 ∃ stopReason terminalType eligible usage requests responseId,
  out=last.out++[.finish stopReason terminalType eligible usage requests responseId
   (intoValues last.outputItemsByIndex)]

theorem keepsArguments_at {outputIndex:ℕ} {block:ToolBlock}
 (hindex:outputIndexOf payload=some outputIndex) (hdelta:strField "delta" payload ≠ "")
 (hblock:state.blocksByOutputIndex.lookup outputIndex=some (.tool block)) :
 KeepsArguments env state payload ↔ (block.bufferUntilDone=false → block.emittedArgs=true ∨ block.argsAccum = "") ∧
  (block.bufferUntilDone=true → (repairWhitespaceStalledReadArgs env block.name
   (block.argsAccum++strField "delta" payload)).isSome → ¬Answered state outputIndex ∧
    ∀ other open',other≠outputIndex → state.blocksByOutputIndex.lookup other=some open' → Silent open'):=by
 constructor
 · exact fun hkeeps=>hkeeps outputIndex block hindex hdelta hblock
 · intro hkeeps other found hother _ hfound
   obtain rfl:=Option.some.inj (hindex.symm.trans hother)
   rw [← BlockState.tool.inj (Option.some.inj (hblock.symm.trans hfound))]
   exact hkeeps

theorem allSilent_erase (h:next.blocksByOutputIndex=state.blocksByOutputIndex.erase key) :
 AllSilent next ↔ ∀ other block,other≠key → state.blocksByOutputIndex.lookup other=some block → Silent block:=by
 unfold AllSilent
 rw [h]
 constructor
 · intro hall other block hne hblock
   exact hall other block ((AList.lookup_erase_ne hne).trans hblock)
 · intro hall other block hblock
   by_cases hne:other=key
   · rw [hne,AList.lookup_erase] at hblock
     exact absurd hblock (by simp)
   · exact hall other block hne ((AList.lookup_erase_ne hne).symm.trans hblock)

variable {outcome:Outcome}

theorem reduceArgumentsDelta_carries (hproper:ProperBlocks state)
 (h:reduceArgumentsDelta env state payload=.ok outcome) :
 (∃ next,outcome=.going next ∧ Carries state next (KeepsArguments env state payload) ∧ ProperBlocks next) ∨
 ∃ out last keeps,outcome=.finished out ∧ Ends last out ∧ Carries state last keeps ∧
  (KeepsArguments env state payload ↔ keeps ∧ AllSilent last):=by
 have hquiet:(∀ outputIndex block,outputIndexOf payload=some outputIndex →
  strField "delta" payload ≠ "" → state.blocksByOutputIndex.lookup outputIndex≠some (.tool block)) →
  Carries state state (KeepsArguments env state payload) := fun hnone=>
  Carries.of_iff (carries_same rfl rfl rfl le_rfl) (iff_of_true trivial
   fun outputIndex block hindex hdelta hblock=>absurd hblock (hnone _ _ hindex hdelta))
 unfold reduceArgumentsDelta at h
 cases hindex:outputIndexOf payload with
 | none=>
  rw [hindex] at h
  refine .inl ⟨state,(Except.ok.inj h).symm,hquiet fun _ _ hsome=>?_,hproper⟩
  exact absurd (hindex.symm.trans hsome) (by simp)
 | some outputIndex=>
  rw [hindex] at h
  dsimp only at h
  split at h
  · rename_i hempty
    refine .inl ⟨state,(Except.ok.inj h).symm,hquiet fun _ _ _ hdelta=>?_,hproper⟩
    exact absurd (String.isEmpty_iff.mp hempty) hdelta
  · rename_i hdelta
    rw [String.isEmpty_iff] at hdelta
    split at h
    · rename_i block hblock
      have hat:=@keepsArguments_at env state payload outputIndex block hindex hdelta hblock
      have hblockProper:=hproper outputIndex block hblock
      split at h
      · exact absurd h (by simp)
      · split at h
        · rename_i hbuffer
          have hemitted:block.emittedArgs=false:=Bool.eq_false_iff.mpr fun hemitted=>
           absurd (hblockProper.emitted hemitted).2.1 (by simp [hbuffer])
          have hheld:argsHeld block = "" := by simp [argsHeld,hemitted]
          split at h
          · rename_i repaired hrepaired
            have hargs:repaired = "" ++ (argsHeld block++repaired):=by simp [hheld]
            refine .inr ⟨_,_,_,(Except.ok.inj h).symm,⟨_,_,_,_,_,_,rfl⟩,
             carries_closeTool { block with
              argsAccum := repaired,hadDelta := true,emittedArgs := true }
              hblock rfl rfl (.inl rfl) hargs rfl rfl rfl rfl,?_⟩
            rw [hat,hrepaired,allSilent_erase rfl]
            simp [hbuffer]
          · rename_i hnone
            have hchanges:Changes (.tool block) (.tool { block with
             argsAccum := block.argsAccum++strField "delta" payload,hadDelta := true })
             (some (.toolProgress block.index)) ("" = ""):=by
             refine changes_tool rfl rfl rfl (.inr ⟨rfl,fun one hone=>?_⟩)
              (by simp [argsHeld,hemitted])
             rw [← Option.some.inj hone]
             exact fun _=>trivial
            refine .inl ⟨_,(Except.ok.inj h).symm,Carries.of_iff (carries_change hblock
             hchanges rfl rfl rfl rfl) ?_,hproper.insert (fun tool htool=>?_) rfl⟩
            · rw [hat,hnone]
              simp [hbuffer]
            · rw [← BlockState.tool.inj htool]
              exact ⟨hblockProper.buffered,fun hsome=>absurd (hsome.symm.trans hemitted)
               (by simp)⟩
        · rename_i hbuffer
          rw [Bool.not_eq_true] at hbuffer
          have hchanges:Changes (.tool block) (.tool { block with
           argsAccum := block.argsAccum++strField "delta" payload,hadDelta := true,
           emittedArgs := true }) (some (.toolDelta block.index (strField "delta" payload)))
           (unwritten block = ""):=by
           refine changes_tool rfl rfl rfl (.inl rfl) ?_
           rw [← String.append_assoc,← argsAccum_eq]
           rfl
          refine .inl ⟨_,(Except.ok.inj h).symm,Carries.of_iff (carries_change hblock
           hchanges rfl rfl rfl rfl) ?_,hproper.insert (fun tool htool=>?_) rfl⟩
          · rw [hat,unwritten_iff]
            simp [hbuffer]
          · rw [← BlockState.tool.inj htool]
            refine ⟨hblockProper.buffered,fun _=>⟨rfl,hbuffer,fun hempty=>hdelta ?_⟩⟩
            exact (String.append_eq_empty_iff.mp hempty).2
    · rename_i hnone
      refine .inl ⟨state,(Except.ok.inj h).symm,hquiet fun other block hother _ hblock=>?_,
       hproper⟩
      obtain rfl:=Option.some.inj (hindex.symm.trans hother)
      exact hnone block hblock

/-- How the arguments of a block are written to their end. -/
structure Written (tool finished:ToolBlock) (events:List ReducerEvent) (keeps:Prop) :
 Prop where
 index : finished.index=tool.index
 callId : finished.callId=tool.callId
 name : finished.name=tool.name
 spoken : ∃ lead piece event,events=Option.toList event ∧ Says tool.index piece event ∧
  finished.argsAccum=lead++(argsHeld tool++piece) ∧ (lead = "" ↔ keeps)

theorem fillArguments_fields (item:JsonValue) (block:ToolBlock) :
 fillArguments item block={ block with argsAccum := (fillArguments item block).argsAccum } ∧
  (block.hadDelta=true → fillArguments item block=block):=by
 unfold fillArguments
 split
 · split
   · exact ⟨rfl,fun _=>rfl⟩
   · rename_i hfill
     refine ⟨rfl,fun hdelta=>absurd ?_ hfill⟩
     rw [hdelta,Bool.or_true]
 · exact ⟨rfl,fun _=>rfl⟩

theorem sanitizeReadArgs_other {name:String} (h:shouldBufferToolArgs name=false)
 (args:String) : sanitizeReadArgs env name args=args:=by
 unfold sanitizeReadArgs
 unfold shouldBufferToolArgs at h
 rw [bne,h,Bool.not_false,Bool.true_or,if_pos rfl]

theorem finishArguments_written {tool:ToolBlock} (hproper:Proper tool) (item:Option JsonValue) :
 Written tool (finishArguments env item tool).1 (finishArguments env item tool).2
  (item=none → tool.emittedArgs=true ∨ tool.argsAccum = ""):=by
 unfold finishArguments
 cases item with
 | none=>
  refine ⟨rfl,rfl,rfl,unwritten tool,"",none,rfl,.inr ⟨rfl,by simp⟩,?_,?_⟩
  · rw [String.append_empty,← argsAccum_eq]
  · rw [unwritten_iff]
    simp
 | some item=>
  obtain ⟨hfields,hkept⟩:=fillArguments_fields item tool
  dsimp only
  generalize hfilled : fillArguments item tool=filled at hfields hkept ⊢
  obtain ⟨hindex,hcall,hname,hemitted,hbuffer⟩ : filled.index=tool.index ∧
   filled.callId=tool.callId ∧ filled.name=tool.name ∧
   filled.emittedArgs=tool.emittedArgs ∧ filled.bufferUntilDone=tool.bufferUntilDone:=by
   rw [hfields]
   exact ⟨rfl,rfl,rfl,rfl,rfl⟩
  have hkeeps : "" = "" ↔ (some item=none → tool.emittedArgs=true ∨ tool.argsAccum = ""):=by
   simp
  have hunsaid:tool.emittedArgs=false → argsHeld tool = "" := fun h=>by
   simp [argsHeld,h]
  split
  · rename_i hempty
    rw [String.isEmpty_iff] at hempty
    refine ⟨hindex,hcall,hname,"","",none,rfl,.inr ⟨rfl,by simp⟩,?_,hkeeps⟩
    cases hsaid:tool.emittedArgs with
    | false=>simp [hempty,hunsaid hsaid]
    | true=>
     obtain ⟨hdelta,_,hfull⟩:=hproper.emitted hsaid
     rw [hkept hdelta] at hempty
     exact absurd hempty hfull
  · split
    · rename_i hwrites
      refine ⟨hindex,hcall,hname,"",_,some _,rfl,.inl (by rw [hindex]),?_,hkeeps⟩
      have hsaid:tool.emittedArgs=false:=by
       refine Bool.eq_false_iff.mpr fun hsaid=>?_
       rw [hbuffer,hemitted,hsaid,(hproper.emitted hsaid).2.1] at hwrites
       exact absurd hwrites (by decide)
      rw [hunsaid hsaid,String.empty_append,String.empty_append]
    · rename_i hwrites
      rw [hbuffer,hemitted,Bool.not_eq_true,Bool.or_eq_false_iff,Bool.not_eq_false'] at hwrites
      refine ⟨hindex,hcall,hname,"","",none,rfl,.inr ⟨rfl,by simp⟩,?_,hkeeps⟩
      dsimp only
      have hunbuffered:shouldBufferToolArgs filled.name=false:=by
       rw [hname,← hproper.buffered]
       exact hwrites.1
      rw [sanitizeReadArgs_other hunbuffered,hkept (hproper.emitted hwrites.2).1]
      simp [argsHeld,hwrites.2]

theorem carries_closeText {textAccum:String}
 (hblock:state.blocksByOutputIndex.lookup key=some (.text index textAccum)) :
 Carries state (({ state with
  blocksByOutputIndex := state.blocksByOutputIndex.erase key }.captureOutputItem key
   (.text index textAccum)).push (.textStop index))
  (textAccum ≠ "" → ¬Answered state key):=by
 have hmute:Mute (.textStop index):=fun _=>trivial
 unfold captureOutputItem
 dsimp only
 split
 · rename_i hempty
   rw [String.isEmpty_iff] at hempty
   refine Carries.of_iff (carries_close hblock hmute rfl rfl ?_ rfl) ?_
   · rw [if_neg (by simp [heldOf,Seen.counts,hempty]),zero_add]
     rfl
   · exact iff_of_true trivial fun hne=>absurd hempty hne
 · rename_i hfull
   rw [String.isEmpty_iff] at hfull
   have hclosed:Carries { state with
    outputItemsByIndex := state.outputItemsByIndex.erase key }
     (({ state with blocksByOutputIndex := state.blocksByOutputIndex.erase key }.insertItem key
      (.message "assistant" [.outputText textAccum])).push (.textStop index)) True:=by
    refine carries_close hblock hmute rfl rfl ?_ rfl
    rw [if_pos (by simp [heldOf,Seen.counts,hfull])]
    exact recorded_insert _ _ _
   refine Carries.of_iff ((carries_unrecord state key).trans hclosed) ?_
   rw [and_true]
   exact ⟨fun hnot _=>hnot,fun hnot=>hnot hfull⟩

theorem reduceBlockDone_carries (hproper:ProperBlocks state) (outputIndex:ℕ) (item:Option JsonValue) :
 Carries state (reduceBlockDone env state outputIndex item) (KeepsBlock state outputIndex item) ∧
  ProperBlocks (reduceBlockDone env state outputIndex item):=by
 unfold reduceBlockDone KeepsBlock
 cases hblock:state.blocksByOutputIndex.lookup outputIndex with
 | none=>
  refine ⟨Carries.of_iff (carries_same rfl rfl rfl le_rfl) (iff_of_true trivial ?_),hproper⟩
  exact fun block hsome=>absurd hsome (by simp)
 | some block=>
  cases block with
  | text index textAccum=>
   refine ⟨Carries.of_iff (carries_closeText hblock) ?_,?_⟩
   · simp [Silent]
   · unfold captureOutputItem
     dsimp only
     split
     · exact hproper.erase rfl
     · exact hproper.erase rfl
  | tool tool=>
   dsimp only
   have hwritten:=@finishArguments_written env tool (hproper outputIndex tool hblock) item
   generalize finishArguments env item tool=written at hwritten ⊢
   obtain ⟨finished,events⟩:=written
   obtain ⟨lead,piece,event,rfl,hpiece,hargs,hkeeps⟩:=hwritten.spoken
   refine ⟨Carries.of_iff (carries_closeTool finished hblock hwritten.callId hwritten.name hpiece
    hargs ?_ rfl rfl rfl) ?_,hproper.erase rfl⟩
   · rw [← hwritten.index]
     rfl
   · rw [hkeeps]
     simp [Silent,and_comm]

theorem closeThinking_proper (hproper:ProperBlocks state) :
 ProperBlocks (state.closeThinking env) := hproper.same (closeThinking_blocks env state)

theorem reduceReasoningDone_carries (hproper:ProperBlocks state) (outputIndex:ℕ)
 (item:JsonValue) : Carries state (reduceReasoningDone env state outputIndex item)
  (KeepsReasoning env state outputIndex item) ∧ ProperBlocks (reduceReasoningDone env state outputIndex item):=by
 have hcaptured:Carries state (state.captureReasoning outputIndex item) True :=
  carries_same rfl rfl rfl le_rfl
 have hclosed:=hcaptured.trans (closeThinking_carries env (state.captureReasoning outputIndex item))
 have hclosedProper:ProperBlocks ((state.captureReasoning outputIndex item).closeThinking env) :=
  hproper.same (closeThinking_blocks env _)
 unfold reduceReasoningDone KeepsReasoning
 dsimp only
 split
 · rename_i hactive
   refine ⟨Carries.of_iff hclosed ?_,hclosedProper⟩
   rw [true_and,and_iff_left]
   exact fun hnone=>absurd (hactive.symm.trans hnone) (by simp)
 · rename_i hactive
   rw [Bool.not_eq_true] at hactive
   refine ⟨Carries.of_iff (hclosed.trans (emitSignatureOnlyReasoning_carries env _ outputIndex)) ?_,?_⟩
   · rw [true_and]
     exact and_congr_right fun _=>⟨fun hnot _=>hnot,fun hnot=>hnot hactive⟩
   · refine hclosedProper.same ?_
     unfold emitSignatureOnlyReasoning
     dsimp only
     split <;> rfl

theorem reduceItemDone_carries (hproper:ProperBlocks state) (payload:JsonValue) :
 Carries state (reduceItemDone env state payload) (KeepsDone env state payload) ∧
  ProperBlocks (reduceItemDone env state payload):=by
 have hdone:reduceItemDone env state payload =
  match typed "reasoning" (payload.get "item") with
  | some item=>reduceReasoningDone env state ((outputIndexOf payload).getD 0) item
  | none=>
   match typed "web_search_call" (payload.get "item") with
   | some item=>reduceWebSearchDone env state item
   | none=>reduceBlockDone env state ((outputIndexOf payload).getD 0)
    (payload.get "item") := rfl
 rw [hdone]
 unfold KeepsDone
 dsimp only
 cases typed "reasoning" (payload.get "item") with
 | some item=>exact reduceReasoningDone_carries hproper _ _
 | none=>
  cases typed "web_search_call" (payload.get "item") with
  | some item=>
   refine ⟨Carries.of_iff ((closeThinking_carries env state).trans (carries_mute
    [.webSearch (state.closeThinking env).anthropicIndex ((state.closeThinking env).anthropicIndex+1)
     (serverToolUseIdFromCodexWebSearchId env (strField "id" item)) (webSearchQuery item)]
    (by simp [Mute,Within]) rfl rfl rfl (Nat.le_add_right _ 2))) ?_,
    (closeThinking_proper hproper).same rfl⟩
   rw [and_true]
  | none=>exact reduceBlockDone_carries hproper _ _

theorem reduceItemAdded_proper (hproper:ProperBlocks state) (payload:JsonValue) :
 ProperBlocks (reduceItemAdded env state payload):=by
 have hclosed:ProperBlocks (state.closeThinking env):=closeThinking_proper hproper
 unfold reduceItemAdded
 split
 · exact hproper
 · dsimp only
   split
   · exact hproper.same rfl
   · split
     · exact hproper.same rfl
     · split
       · unfold reduceMessageAdded
         dsimp only
         split
         · exact hclosed.insert (fun tool htool=>absurd htool (by simp)) rfl
         · exact hclosed.insert (fun tool htool=>absurd htool (by simp)) rfl
       · split
         · refine hclosed.insert (fun tool htool=>?_) rfl
           rw [← BlockState.tool.inj htool]
           exact ⟨rfl,fun h=>absurd h (by simp)⟩
         · exact hproper

theorem reduceTextDelta_proper (hproper:ProperBlocks state) (payload:JsonValue) :
 ProperBlocks (reduceTextDelta env state payload):=by
 have hclosed:ProperBlocks (state.closeThinking env):=closeThinking_proper hproper
 unfold reduceTextDelta
 dsimp only
 split
 · exact hclosed
 · split
   · exact hclosed.insert (fun tool htool=>absurd htool (by simp)) rfl
   · exact hclosed

theorem reduceSummaryDelta_proper (hproper:ProperBlocks state) (payload:JsonValue) :
 ProperBlocks (reduceSummaryDelta env state payload):=by
 have hclosed:ProperBlocks (state.closeThinking env):=closeThinking_proper hproper
 unfold reduceSummaryDelta
 dsimp only
 split
 · exact hproper
 · split
   · exact hproper.same rfl
   · exact hclosed.same rfl

theorem closeThinking_noted (eventType:String) :
 (noteEvent state eventType).closeThinking env = noteEvent (state.closeThinking env) eventType:=by
 unfold closeThinking
 cases hactive:state.activeThinking with
 | none=>
  have hnoted:(noteEvent state eventType).activeThinking=none:=hactive
  rw [hnoted]
 | some active=>
  have hnoted:(noteEvent state eventType).activeThinking=some active:=hactive
  rw [hnoted]
  unfold finalizeActiveThinking
  dsimp only
  have hsame:takeSignature env { noteEvent state eventType with activeThinking:=none }
   active.outputIndex=takeSignature env { state with activeThinking := none }
    active.outputIndex := rfl
  rw [hsame]
  cases takeSignature env { state with activeThinking := none } active.outputIndex <;> rfl

theorem keepsDone_noted (eventType:String) :
 KeepsDone env (noteEvent state eventType) payload ↔ KeepsDone env state payload:=by
 unfold KeepsDone
 dsimp only
 cases typed "reasoning" (payload.get "item") with
 | some item=>
  have hcaptured:(noteEvent state eventType).captureReasoning ((outputIndexOf payload).getD 0)
   item=noteEvent (state.captureReasoning ((outputIndexOf payload).getD 0) item) eventType :=
   rfl
  dsimp only
  unfold KeepsReasoning
  dsimp only
  rw [hcaptured,closeThinking_noted]
  rfl
 | none=>cases typed "web_search_call" (payload.get "item") <;> rfl

theorem keeps_noted (eventType:String) : Keeps env (noteEvent state eventType) payload ↔ Keeps env state payload :=
 ⟨fun h=>⟨h.added,h.summary,h.text,h.arguments,fun htype=>
  (keepsDone_noted eventType).mp (h.done htype)⟩,
  fun h=>⟨h.added,h.summary,h.text,h.arguments,fun htype=>
   (keepsDone_noted eventType).mpr (h.done htype)⟩⟩

theorem keeps_typed {eventType:String} (htype:strField "type" payload=eventType) :
 (eventType=itemAdded → (Keeps env state payload ↔ KeepsAdded env state payload)) ∧
 (eventType=summaryDelta → (Keeps env state payload ↔ KeepsSummary env state payload)) ∧
 (eventType=textDelta → (Keeps env state payload ↔ ¬ThinkingOverwrites env state)) ∧
 (eventType=argumentsDelta → (Keeps env state payload ↔ KeepsArguments env state payload)) ∧
 (eventType=itemDone → (Keeps env state payload ↔ KeepsDone env state payload)):=by
 have hdistinct : [itemAdded,summaryDelta,textDelta,argumentsDelta,itemDone].Nodup:=by
  simp [itemAdded,summaryDelta,textDelta,argumentsDelta,itemDone]
 simp only [List.nodup_cons,List.mem_cons,List.not_mem_nil,or_false,not_or,not_false_iff,
  List.nodup_nil,and_true] at hdistinct
 obtain ⟨⟨has,hat,hag,had⟩,⟨hst,hsg,hsd⟩,⟨htg,htd⟩,hgd⟩:=hdistinct
 have hapart:∀ {first second:String} {keeps:Prop},¬first=second →
  strField "type" payload=first → strField "type" payload=second → keeps :=
  fun hne hfirst hsecond=>absurd (hfirst.symm.trans hsecond) hne
 refine ⟨?_,?_,?_,?_,?_⟩
 · rintro rfl
   exact ⟨fun h=>h.added htype,fun h=>⟨fun _=>h,hapart has htype,hapart hat htype,
    hapart hag htype,hapart had htype⟩⟩
 · rintro rfl
   exact ⟨fun h=>h.summary htype,fun h=>⟨hapart (Ne.symm has) htype,fun _=>h,
    hapart hst htype,hapart hsg htype,hapart hsd htype⟩⟩
 · rintro rfl
   exact ⟨fun h=>h.text htype,fun h=>⟨hapart (Ne.symm hat) htype,
    hapart (Ne.symm hst) htype,fun _=>h,hapart htg htype,hapart htd htype⟩⟩
 · rintro rfl
   exact ⟨fun h=>h.arguments htype,fun h=>⟨hapart (Ne.symm hag) htype,
    hapart (Ne.symm hsg) htype,hapart (Ne.symm htg) htype,fun _=>h,hapart hgd htype⟩⟩
 · rintro rfl
   exact ⟨fun h=>h.done htype,fun h=>⟨hapart (Ne.symm had) htype,
    hapart (Ne.symm hsd) htype,hapart (Ne.symm htd) htype,hapart (Ne.symm hgd) htype,
    fun _=>h⟩⟩

theorem reduceEvent_summaryDelta (htype:strField "type" payload=summaryDelta) :
 reduceEvent env state payload = .ok (.going (reduceSummaryDelta env (noteEvent state summaryDelta) payload)):=by
 unfold reduceEvent
 rw [htype]
 rfl

theorem reduceEvent_textDelta (htype:strField "type" payload=textDelta) :
 reduceEvent env state payload = .ok (.going (reduceTextDelta env (noteEvent state textDelta) payload)):=by
 unfold reduceEvent
 rw [htype]
 rfl

theorem reduceEvent_itemDone (htype:strField "type" payload=itemDone) :
 reduceEvent env state payload = .ok (.going (reduceItemDone env (noteEvent state itemDone) payload)):=by
 unfold reduceEvent
 rw [htype]
 rfl

theorem reduceEvent_quiet (hproper:ProperBlocks state) (hadded:strField "type" payload≠itemAdded)
 (hsummary:strField "type" payload≠summaryDelta) (htext:strField "type" payload≠textDelta)
 (harguments:strField "type" payload≠argumentsDelta)
 (hdone:strField "type" payload≠itemDone) (h:reduceEvent env state payload=.ok outcome) :
 ∃ next,outcome=.going next ∧ Carries state next True ∧ ProperBlocks next:=by
 unfold reduceEvent at h
 dsimp only at h
 have hnoted:Carries state (noteEvent state (strField "type" payload)) True :=
  carries_same rfl rfl rfl le_rfl
 have hnotedProper:ProperBlocks (noteEvent state (strField "type" payload)):=hproper
 generalize noteEvent state (strField "type" payload)=noted at h hnoted hnotedProper
 have hpush:Carries noted (noted.push .progress) True :=
  carries_mute [.progress] (by simp [Mute,Within]) rfl rfl rfl le_rfl
 have hgoing:∀ {next:ReducerState},
  Except.ok (.going next)=(.ok outcome : Reduced Outcome) → Carries noted next True →
   ProperBlocks next → ∃ next,outcome=.going next ∧ Carries state next True ∧ ProperBlocks next :=
  fun hnext hcarries hnextProper=>⟨_,(Except.ok.inj hnext).symm,
   Carries.of_iff (hnoted.trans hcarries) (and_self_iff),hnextProper⟩
 obtain ⟨_,h⟩ | ⟨_,h⟩:=ite_eq_iff.mp h
 · obtain ⟨_,h⟩ | ⟨_,h⟩:=ite_eq_iff.mp h
   · exact absurd h (by simp)
   · exact hgoing h hpush (hnotedProper.same rfl)
 obtain ⟨_,h⟩ | ⟨_,h⟩:=ite_eq_iff.mp h
 · exact hgoing h hpush (hnotedProper.same rfl)
 obtain ⟨_,h⟩ | ⟨_,h⟩:=ite_eq_iff.mp h
 · exact hgoing h hpush (hnotedProper.same rfl)
 obtain ⟨_,h⟩ | ⟨_,h⟩:=ite_eq_iff.mp h
 · exact absurd h (by simp [reduceFailed])
 obtain ⟨htype,_⟩ | ⟨_,h⟩:=ite_eq_iff.mp h
 · exact absurd (beq_iff_eq.mp htype) hadded
 obtain ⟨_,h⟩ | ⟨_,h⟩:=ite_eq_iff.mp h
 · refine hgoing h (reduceSummaryPartAdded_carries payload) (hnotedProper.same ?_)
   unfold reduceSummaryPartAdded
   split
   · split <;> rfl
   · rfl
 obtain ⟨htype,_⟩ | ⟨_,h⟩:=ite_eq_iff.mp h
 · exact absurd (beq_iff_eq.mp htype) hsummary
 obtain ⟨htype,_⟩ | ⟨_,h⟩:=ite_eq_iff.mp h
 · exact absurd (beq_iff_eq.mp htype) htext
 obtain ⟨htype,_⟩ | ⟨_,h⟩:=ite_eq_iff.mp h
 · exact absurd (beq_iff_eq.mp htype) harguments
 obtain ⟨_,h⟩ | ⟨_,h⟩:=ite_eq_iff.mp h
 · obtain ⟨hcarries,hnext⟩:=reduceArgumentsDone_carries hnotedProper payload
   exact hgoing h hcarries hnext
 obtain ⟨htype,_⟩ | ⟨_,h⟩:=ite_eq_iff.mp h
 · exact absurd (beq_iff_eq.mp htype) hdone
 obtain ⟨_,h⟩ | ⟨_,h⟩:=ite_eq_iff.mp h
 · exact hgoing h (carries_same rfl rfl rfl le_rfl) (hnotedProper.same rfl)
 · exact hgoing h (carries_same rfl rfl rfl le_rfl) hnotedProper

theorem event_carries (hproper:ProperBlocks state) (h:reduceEvent env state payload=.ok outcome) :
 (∃ next,outcome=.going next ∧ Carries state next (Keeps env state payload) ∧ ProperBlocks next) ∨
 ∃ out last keeps,outcome=.finished out ∧ Ends last out ∧ Carries state last keeps ∧
  (Keeps env state payload ↔ keeps ∧ AllSilent last):=by
 have hnoted:∀ eventType,Carries state (noteEvent state eventType) True :=
  fun _=>carries_same rfl rfl rfl le_rfl
 have hnotedProper:∀ eventType,ProperBlocks (noteEvent state eventType):=fun _=>hproper
 have hgoing:∀ {eventType:String} {next:ReducerState} {keeps:Prop},
  Except.ok (.going next)=(.ok outcome : Reduced Outcome) →
  Carries (noteEvent state eventType) next keeps → ProperBlocks next →
  (Keeps env (noteEvent state eventType) payload ↔ keeps) →
   ∃ next,outcome=.going next ∧ Carries state next (Keeps env state payload) ∧ ProperBlocks next:=by
  intro eventType next keeps hnext hcarries hnextProper hiff
  refine ⟨next,(Except.ok.inj hnext).symm,Carries.of_iff ((hnoted eventType).trans hcarries) ?_,hnextProper⟩
  rw [true_and,← hiff,keeps_noted]
 by_cases hadded:strField "type" payload=itemAdded
 · exact .inl (hgoing ((reduceEvent_itemAdded hadded).symm.trans h) (reduceItemAdded_carries env _ payload)
    (reduceItemAdded_proper (hnotedProper itemAdded) payload) ((keeps_typed hadded).1 rfl))
 by_cases hsummary:strField "type" payload=summaryDelta
 · exact .inl (hgoing ((reduceEvent_summaryDelta hsummary).symm.trans h) (reduceSummaryDelta_carries env _ payload)
    (reduceSummaryDelta_proper (hnotedProper summaryDelta) payload) ((keeps_typed hsummary).2.1 rfl))
 by_cases htext:strField "type" payload=textDelta
 · exact .inl (hgoing ((reduceEvent_textDelta htext).symm.trans h) (reduceTextDelta_carries env _ payload)
    (reduceTextDelta_proper (hnotedProper textDelta) payload) ((keeps_typed htext).2.2.1 rfl))
 by_cases hdone:strField "type" payload=itemDone
 · obtain ⟨hcarries,hnext⟩:=@reduceItemDone_carries env _ (hnotedProper itemDone) payload
   exact .inl (hgoing ((reduceEvent_itemDone hdone).symm.trans h) hcarries hnext ((keeps_typed hdone).2.2.2.2 rfl))
 by_cases harguments:strField "type" payload=argumentsDelta
 · have hkeeps:Keeps env (noteEvent state argumentsDelta) payload ↔
    KeepsArguments env (noteEvent state argumentsDelta) payload :=
    (keeps_typed harguments).2.2.2.1 rfl
   rw [reduceEvent_argumentsDelta harguments] at h
   obtain ⟨next,rfl,hcarries,hnext⟩ | ⟨out,last,keeps,rfl,hends,hcarries,hiff⟩ :=
    reduceArgumentsDelta_carries (hnotedProper argumentsDelta) h
   · exact .inl (hgoing rfl hcarries hnext hkeeps)
   · refine .inr ⟨out,last,keeps,rfl,hends,Carries.of_iff ((hnoted _).trans hcarries) (iff_of_eq (true_and keeps)),?_⟩
     rw [← hiff,← hkeeps,keeps_noted]
 · obtain ⟨next,rfl,hcarries,hnext⟩ :=
    reduceEvent_quiet hproper hadded hsummary htext harguments hdone h
   refine .inl ⟨next,rfl,Carries.of_iff hcarries (iff_of_true trivial ?_),hnext⟩
   exact ⟨fun h=>absurd h hadded,fun h=>absurd h hsummary,fun h=>absurd h htext,
    fun h=>absurd h harguments,fun h=>absurd h hdone⟩

theorem mem_openBlocks {blocks:AList fun _ : ℕ=>BlockState} {entry:ℕ×Seen} :
 entry∈openBlocks blocks ↔ ∃ key block,blocks.lookup key=some block ∧
  heldOf block=entry:=by
 unfold openBlocks
 rw [Multiset.mem_coe,List.mem_map]
 constructor
 · rintro ⟨⟨key,block⟩,hmem,rfl⟩
   exact ⟨key,block,AList.mem_lookup_iff.mpr hmem,rfl⟩
 · rintro ⟨key,block,hblock,rfl⟩
   exact ⟨⟨key,block⟩,AList.mem_lookup_iff.mp hblock,rfl⟩

theorem allSilent_iff {ledger:Ledger} (h:Account state ledger) :
 AllSilent state ↔ ∀ told∈ledger.opened,told.held.counts=false:=by
 constructor
 · intro hall told hmem
   have hopen:told.block∈openBlocks state.blocksByOutputIndex:=by
    rw [h.blocks]
    exact Multiset.mem_map_of_mem _ hmem
   obtain ⟨key,block,hblock,hheld⟩:=mem_openBlocks.mp hopen
   have hsilent:=(silent_iff block).mp (hall key block hblock)
   rwa [hheld] at hsilent
 · intro hall key block hblock
   have hopen:=mem_openBlocks.mpr ⟨key,block,hblock,rfl⟩
   rw [h.blocks] at hopen
   obtain ⟨told,hmem,hheld⟩:=Multiset.mem_map.mp hopen
   rw [silent_iff,← hheld]
   exact hall told hmem

theorem ends_seen {ledger:Ledger} {out:List ReducerEvent} (haccount:Account state ledger)
 (hends:Ends state out) : SeenIsRecorded out ↔ ledger.Clean ∧ AllSilent state:=by
 obtain ⟨stopReason,terminalType,eligible,usage,requests,responseId,rfl⟩:=hends
 have hmute:Mute (.finish stopReason terminalType eligible usage requests responseId
  (intoValues state.outputItemsByIndex)) := fun _=>trivial
 have hitems:outputItems (state.out++[.finish stopReason terminalType eligible usage requests
  responseId (intoValues state.outputItemsByIndex)])=intoValues state.outputItemsByIndex:=by
  unfold outputItems
  rw [List.reverse_append]
  rfl
 have hperm:((intoValues state.outputItemsByIndex).filterMap recordOf).Perm
  (state.outputItemsByIndex.entries.filterMap fun entry=>recordOf entry.2):=by
  unfold intoValues
  rw [List.filterMap_map]
  exact (List.perm_insertionSort _ _).filterMap _
 rw [allSilent_iff haccount,← haccount.seen_iff]
 unfold SeenIsRecorded
 rw [hitems,shown_mute _ hmute,← Multiset.coe_eq_coe,Multiset.coe_eq_coe.mpr hperm,
  Multiset.map_coe,Multiset.filter_coe]
 simp only [Bool.decide_eq_true]
 rfl

theorem finishReduction_ends {out:List ReducerEvent} (h:finishReduction env state=.ok out) :
 Ends (state.closeThinking env) out ∧ AllSilent (state.closeThinking env):=by
 unfold finishReduction at h
 dsimp only at h
 split at h
 · exact absurd h (by simp)
 · rename_i hopen
   rw [Bool.or_eq_true,not_or,Bool.not_eq_true',Bool.not_eq_true',Bool.not_eq_false,Bool.not_eq_false] at hopen
   refine ⟨⟨_,_,_,_,_,_,(Except.ok.inj h).symm⟩,fun key block hblock=>?_⟩
   rw [closeThinking_blocks,describeOpenBlocks_isEmpty hopen.2] at hblock
   exact absurd hblock (by simp)

theorem reduceAll_seen (payloads:List JsonValue) :
 ∀ {state:ReducerState} {ledger:Ledger} {out:List ReducerEvent},ProperBlocks state →
  Account state ledger → reduceAll env state payloads=.ok out →
   (SeenIsRecorded out ↔ ledger.Clean ∧ Faithful env state payloads):=by
 induction payloads with
 | nil=>
  intro state ledger out _ haccount hout
  obtain ⟨hends,hsilent⟩:=finishReduction_ends hout
  obtain ⟨later,hlater, hclean⟩:=closeThinking_carries env state ledger haccount
  rw [ends_seen hlater hends,and_iff_left hsilent, hclean]
  rfl
 | cons payload payloads ih=>
  intro state ledger out hproper haccount hout
  unfold reduceAll at hout
  unfold Faithful
  cases hevent:reduceEvent env state payload with
  | error error=>
   rw [hevent] at hout
   exact absurd hout (by simp)
  | ok outcome=>
   rw [hevent] at hout
   obtain ⟨next,rfl,hcarries,hnext⟩ | ⟨ended,last,keeps,rfl,hends,hcarries,hiff⟩ :=
    event_carries hproper hevent
   · obtain ⟨later,hlater, hclean⟩:=hcarries ledger haccount
     rw [ih hnext hlater hout, hclean,and_assoc]
   · obtain ⟨later,hlater, hclean⟩:=hcarries ledger haccount
     obtain rfl:=Except.ok.inj hout
     rw [ends_seen hlater hends, hclean,and_assoc,← hiff,and_true]

theorem account_empty : Account {} ⟨0,0,0⟩ :=
 ⟨rfl,rfl,rfl,fun _ h=>absurd h (Multiset.notMem_zero _),List.nodup_nil,
  fun _ h=>absurd h List.not_mem_nil,fun _ _=>⟨rfl,rfl⟩⟩

/-- What the client has seen is what is recorded if and only if every event of the stream keeps the
two the same. -/
theorem seen_iff_faithful (env:CodexEnv) (events:List String) (out:List ReducerEvent)
    (h:reduceUpstream env events=.ok out) :
    SeenIsRecorded out ↔ Faithful env {} (events.filterMap (payloadOf env)):=by
  have hclean:Ledger.Clean ⟨0,0,0⟩:=⟨fun _ h=>absurd h (Multiset.notMem_zero _),
    fun _ h=>absurd h (Multiset.notMem_zero _),fun _ h=>absurd h (Multiset.notMem_zero _)⟩
  have hproper:ProperBlocks {}:=fun _ _ hblock=>absurd hblock (by simp)
  rw [reduceAll_seen _ hproper account_empty h,and_iff_right hclean]

theorem seen_iff_faithful_message :
    SeenIsRecorded [.textStart 0,.textStop 0,messageEnd] ↔
      Faithful messageEnv {} [addedPayload,donePayload,completedPayload]:=by
  obtain ⟨hadded,hdone,hcompleted⟩:=messageEnv_reads
  have hpayloads : [addedText,doneText,completedText].filterMap (payloadOf messageEnv) =
      [addedPayload,donePayload,completedPayload]:=by
    rw [List.filterMap_cons_some hadded,List.filterMap_cons_some hdone,
      List.filterMap_cons_some hcompleted,List.filterMap_nil]
  have hiff:=seen_iff_faithful messageEnv [addedText,doneText,completedText] [.textStart 0,.textStop 0,messageEnd] (by
      unfold reduceUpstream
      rw [hpayloads]
      rfl)
  rwa [hpayloads] at hiff

/-! A function call whose arguments come at once, and whose item is not repeated. -/

def callText : String :=
 "\x7b\"type\":\"response.output_item.added\",\"output_index\":0,\"item\":" ++
  "\x7b\"type\":\"function_call\",\"call_id\":\"c\",\"name\":\"Bash\"\x7d\x7d"

def callPayload : JsonValue :=
 .object [("item",.object [("call_id",.string "c"),("name",.string "Bash"),
  ("type",.string "function_call")]),("output_index",.number "0"),("type",.string itemAdded)]

def argumentsText : String :=
 "\x7b\"type\":\"response.function_call_arguments.done\",\"output_index\":0," ++ "\"arguments\":\"\x7b\x7d\"\x7d"

def argumentsPayload : JsonValue :=
 .object [("arguments",.string "\x7b\x7d"),("output_index",.number "0"),
  ("type",.string "response.function_call_arguments.done")]

def callEnv : CodexEnv := { messageEnv with
 fromStr := fun text=>List.lookup text [(callText,callPayload),
  (argumentsText,argumentsPayload),(doneText,donePayload),
  (completedText,completedPayload)] }

def callEnd : ReducerEvent :=
 .finish stopToolUse "response.completed" true none 0 none [.functionCall "c" "Bash" "\x7b\x7d"]

theorem callEnv_reads : payloadOf callEnv callText=some callPayload ∧
 payloadOf callEnv argumentsText=some argumentsPayload ∧
  payloadOf callEnv doneText=some donePayload ∧ payloadOf callEnv completedText=some completedPayload:=by
 have henv:callEnv.fromStr=fun text=>List.lookup text [(callText,callPayload),
  (argumentsText,argumentsPayload),(doneText,donePayload),
  (completedText,completedPayload)] := rfl
 have hreads:=payloadOf_table henv (by
  unfold callText argumentsText doneText completedText
  simp -index only [List.map_cons,List.map_nil,String.toList_append,String.toList_ofList]
  decide +kernel) (by
  unfold callText argumentsText doneText completedText
  simp -index only [List.map_cons,List.map_nil,String.toList_append,String.toList_ofList]
  decide +kernel)
 exact ⟨hreads (callText,callPayload) (by simp),
  hreads (argumentsText,argumentsPayload) (by simp),hreads (doneText,donePayload) (by simp),
  hreads (completedText,completedPayload) (by simp)⟩

/-- The arguments are recorded, and the client never sees them. -/
theorem arguments_unsaid :
    reduceUpstream callEnv [callText,argumentsText,doneText,completedText] =
        .ok [.toolStart 0 "c" "Bash",.toolStop 0,callEnd] ∧
      ¬SeenIsRecorded [.toolStart 0 "c" "Bash",.toolStop 0,callEnd]:=by
  obtain ⟨hcall,harguments,hdone,hcompleted⟩:=callEnv_reads
  refine ⟨?_,fun hseen=>?_⟩
  · unfold reduceUpstream
    rw [List.filterMap_cons_some hcall,List.filterMap_cons_some harguments,
      List.filterMap_cons_some hdone,List.filterMap_cons_some hcompleted,List.filterMap_nil]
    rfl
  · have hmem:Seen.tool "c" "Bash" "" ∈ [Seen.tool "c" "Bash" "\x7b\x7d"] :=
      hseen.subset List.mem_cons_self
    exact absurd hmem (by decide)

end CursorProxy.CodexRecords
