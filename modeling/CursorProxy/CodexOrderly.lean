import CursorProxy.CodexWellFormed

namespace CursorProxy.CodexOrderly
open JsonValues CodexReducer ReducerState CodexWellFormed

def itemAdded : String := "response.output_item.added"
def argumentsDelta : String := "response.function_call_arguments.delta"

/-- A message or a function call is added at an output index whose block is open. -/
def Replaces (state:ReducerState) (payload:JsonValue) : Prop :=
 strField "type" payload=itemAdded ∧ ∃ item,payload.get "item" = some item ∧
  (strField "type" item = "message" ∨ strField "type" item = "function_call") ∧
  (state.blocksByOutputIndex.lookup ((outputIndexOf payload).getD 0)).isSome

def Repairs (env:CodexEnv) (state:ReducerState) (payload:JsonValue) (outputIndex:ℕ) : Prop :=
 strField "type" payload=argumentsDelta ∧ outputIndexOf payload=some outputIndex ∧
  strField "delta" payload ≠ "" ∧ ∃ block,state.blocksByOutputIndex.lookup outputIndex=some (.tool block) ∧
   block.bufferUntilDone=true ∧
   (repairWhitespaceStalledReadArgs env block.name (block.argsAccum++strField "delta" payload)).isSome

/-- The repair ends the answer while another block or some thinking is open. -/
def Interrupts (env:CodexEnv) (state:ReducerState) (payload:JsonValue) : Prop :=
 ∃ outputIndex,Repairs env state payload outputIndex ∧
  (state.activeThinking.isSome ∨ ∃ other,other≠outputIndex ∧ (state.blocksByOutputIndex.lookup other).isSome)

/-- No block is replaced, and none is open when a repair ends the answer. -/
def Orderly (env:CodexEnv) : ReducerState → List JsonValue → Prop
 | _,[]=>True
 | state,payload::payloads=>
  ¬Replaces state payload ∧ ¬Interrupts env state payload ∧
   match reduceEvent env state payload with
   | .ok (.going next)=>Orderly env next payloads
   | _=>True

variable {env:CodexEnv} {state:ReducerState} {payload:JsonValue}

structure OpensAt (env:CodexEnv) (state next:ReducerState) (outputIndex:ℕ) : Prop where
 opens : ∃ kind event,Starts (kind,(desk (state.closeThinking env)).next) event ∧
  desk next=openAt (desk (state.closeThinking env)) outputIndex kind event

theorem openBlock_desk (outputIndex:ℕ) (block:BlockState) (event:ReducerEvent)
  {kind:BlockKind} (h:entryOf block=(kind,state.anthropicIndex)) :
  desk (openBlock state outputIndex block event) = openAt (desk state) outputIndex kind event:=by
 have hblocks:=desk_insert state.blocksByOutputIndex outputIndex block
 rw [h] at hblocks
 exact congrArg (fun blocks=>(⟨state.out++[event],blocks,state.activeThinking.map
  ActiveThinking.anthropicIndex,state.anthropicIndex+1⟩ : Desk)) hblocks

theorem reduceMessageAdded_opens (env:CodexEnv) (state:ReducerState) (outputIndex:ℕ) (item:JsonValue) :
  OpensAt env state (reduceMessageAdded env state outputIndex item) outputIndex:=by
 unfold reduceMessageAdded
 dsimp only
 refine ⟨.text,.textStart (state.closeThinking env).anthropicIndex,rfl,?_⟩
 split
 · exact openBlock_desk outputIndex _ _ rfl
 · exact openBlock_desk outputIndex _ _ rfl

theorem reduceFunctionCallAdded_opens (env:CodexEnv) (state:ReducerState) (outputIndex:ℕ) (item:JsonValue) :
  OpensAt env state (reduceFunctionCallAdded env state outputIndex item) outputIndex:=by
 refine ⟨.tool,.toolStart (state.closeThinking env).anthropicIndex (strField "call_id" item)
  (strField "name" item),rfl,?_⟩
 exact openBlock_desk outputIndex _ _ rfl

theorem reduceItemAdded_cases (env:CodexEnv) (state:ReducerState) (payload:JsonValue) :
  (∃ item,payload.get "item" = some item ∧
   (strField "type" item = "message" ∨ strField "type" item = "function_call") ∧
   OpensAt env state (reduceItemAdded env state payload) ((outputIndexOf payload).getD 0)) ∨
  DeskRun (desk state) (desk (reduceItemAdded env state payload)) ∧
   ∀ item,payload.get "item" = some item →
    ¬(strField "type" item = "message" ∨ strField "type" item = "function_call"):=by
 unfold reduceItemAdded
 cases hitem:payload.get "item" with
 | none=>exact .inr ⟨.refl,fun _ h=>absurd h (by simp)⟩
 | some item=>
  dsimp only
  split
  · rename_i htype
    refine .inr ⟨.refl,fun other h=>?_⟩
    rw [← Option.some.inj h,beq_iff_eq.mp htype]
    decide
  · split
    · rename_i htype
      refine .inr ⟨.single (.inside .progress trivial),fun other h=>?_⟩
      rw [← Option.some.inj h,beq_iff_eq.mp htype]
      decide
    · split
      · rename_i htype
        exact .inl ⟨item,rfl,.inl (beq_iff_eq.mp htype),reduceMessageAdded_opens _ _ _ _⟩
      · split
        · rename_i htype
          exact .inl ⟨item,rfl,.inr (beq_iff_eq.mp htype),reduceFunctionCallAdded_opens _ _ _ _⟩
        · rename_i hmessage hcall
          refine .inr ⟨.refl,fun other h=>?_⟩
          rw [← Option.some.inj h]
          rintro (htype | htype)
          · exact hmessage (beq_iff_eq.mpr htype)
          · exact hcall (beq_iff_eq.mpr htype)

def repairedDesk (state:ReducerState) (outputIndex index:ℕ) (repaired:String) : Desk where
 out := state.out++[.toolDelta index repaired]++[.toolStop index]
 blocks := Function.update (desk state).blocks outputIndex none
 thinking := (desk state).thinking
 next := state.anthropicIndex

variable {outputIndex:ℕ}

theorem repaired_run {block:ToolBlock}
  (hblock:state.blocksByOutputIndex.lookup outputIndex=some (.tool block)) (repaired:String) :
  DeskRun (desk state) (repairedDesk state outputIndex block.index repaired):=by
 have hentry:(desk state).blocks outputIndex=some (.tool,block.index) :=
  congrArg (Option.map entryOf) hblock
 have hwritten:=DeskStep.inside (.toolDelta block.index repaired) (.inl ⟨outputIndex,hentry⟩)
 have hclosed:DeskStep ((desk state).say (.toolDelta block.index repaired))
   (repairedDesk state outputIndex block.index repaired) := .closeBlock hentry rfl
 exact .tail (.single hwritten) hclosed

theorem live_repaired (outputIndex index:ℕ) (repaired:String) :
  (∃ entry,(repairedDesk state outputIndex index repaired).Live entry) ↔
   (state.activeThinking.isSome ∨ ∃ other,other≠outputIndex ∧ (state.blocksByOutputIndex.lookup other).isSome):=by
 have hblocks:∀ other entry,
   (repairedDesk state outputIndex index repaired).blocks other=some entry ↔
    other≠outputIndex ∧ (desk state).blocks other=some entry := fun _ _=>update_none
 constructor
 · rintro ⟨entry,⟨other,hentry⟩ | ⟨index',hindex,rfl⟩⟩
   · obtain ⟨hne,hother⟩:=(hblocks other entry).mp hentry
     obtain ⟨block,hblock,_⟩:=Option.map_eq_some_iff.mp hother
     exact .inr ⟨other,hne,Option.isSome_of_eq_some hblock⟩
   · obtain ⟨active,hactive,_⟩:=Option.map_eq_some_iff.mp hindex
     exact .inl (Option.isSome_of_eq_some hactive)
 · rintro (hactive | ⟨other,hne,hother⟩)
   · obtain ⟨active,hactive⟩:=Option.isSome_iff_exists.mp hactive
     exact ⟨_,.inr ⟨_,congrArg (Option.map ActiveThinking.anthropicIndex) hactive,rfl⟩⟩
   · obtain ⟨block,hblock⟩:=Option.isSome_iff_exists.mp hother
     exact ⟨entryOf block,.inl ⟨other,(hblocks other _).mpr ⟨hne,congrArg (Option.map entryOf) hblock⟩⟩⟩

def isFinish : ReducerEvent → Bool
 | .finish _ _ _ _ _ _ _=>true
 | _=>false

theorem gathered_run {block:ToolBlock} {event:ReducerEvent}
  (hblock:state.blocksByOutputIndex.lookup outputIndex=some (.tool block))
  (changed:ToolBlock) (hindex:changed.index=block.index)
  (hinside:(desk state).Live (.tool,block.index) → Inside (desk state) event) :
  DeskRun (desk state) (desk (push { state with
   blocksByOutputIndex := state.blocksByOutputIndex.insert outputIndex (.tool changed) } event)):=by
 have hentry:(desk state).blocks outputIndex=some (.tool,block.index) :=
  congrArg (Option.map entryOf) hblock
 have hsame:=desk_update (.tool changed) hblock (congrArg (Prod.mk BlockKind.tool) hindex)
 change DeskRun _ ((desk { state with
  blocksByOutputIndex := state.blocksByOutputIndex.insert outputIndex (.tool changed) }).say event)
 rw [hsame]
 exact .single (.inside event (hinside (.inl ⟨outputIndex,hentry⟩)))

variable {outcome:Outcome}

theorem reduceArgumentsDelta_cases (htype:strField "type" payload=argumentsDelta)
  (h:reduceArgumentsDelta env state payload=.ok outcome) :
  (∃ next,outcome=.going next ∧ DeskRun (desk state) (desk next) ∧
   ∀ outputIndex,¬Repairs env state payload outputIndex) ∨
  ∃ outputIndex index repaired finish,outcome=.finished
    ((repairedDesk state outputIndex index repaired).out++[finish]) ∧ isFinish finish=true ∧
   DeskRun (desk state) (repairedDesk state outputIndex index repaired) ∧ Repairs env state payload outputIndex:=by
 unfold reduceArgumentsDelta at h
 cases hindex:outputIndexOf payload with
 | none=>
  rw [hindex] at h
  refine .inl ⟨state,(Except.ok.inj h).symm,.refl,fun outputIndex hrepairs=>?_⟩
  exact absurd (hindex.symm.trans hrepairs.2.1) (by simp)
 | some outputIndex=>
  rw [hindex] at h
  dsimp only at h
  split at h
  · rename_i hempty
    refine .inl ⟨state,(Except.ok.inj h).symm,.refl,fun other hrepairs=>?_⟩
    exact hrepairs.2.2.1 (String.isEmpty_iff.mp hempty)
  · rename_i hdelta
    split at h
    · rename_i block hblock
      have hsame:∀ other found,Repairs env state payload other →
        state.blocksByOutputIndex.lookup other=some (.tool found) → other=outputIndex ∧ found=block:=by
       intro other found hrepairs hfound
       obtain rfl:=Option.some.inj (hindex.symm.trans hrepairs.2.1)
       exact ⟨rfl,BlockState.tool.inj (Option.some.inj (hfound.symm.trans hblock))⟩
      split at h
      · exact absurd h (by simp)
      · split at h
        · rename_i hbuffer
          split at h
          · rename_i repaired hrepaired
            refine .inr ⟨outputIndex,block.index,repaired,_,(Except.ok.inj h).symm,rfl,
             repaired_run hblock repaired,htype,hindex,?_,block,hblock,hbuffer,?_⟩
            · exact fun hempty=>hdelta (String.isEmpty_iff.mpr hempty)
            · rw [hrepaired]
              rfl
          · rename_i hnone
            refine .inl ⟨_,(Except.ok.inj h).symm,gathered_run hblock _ rfl id,?_⟩
            rintro other hrepairs
            obtain ⟨found,hfound,_,hsome⟩:=hrepairs.2.2.2
            obtain ⟨_,rfl⟩:=hsame other found hrepairs hfound
            rw [hnone] at hsome
            exact absurd hsome (by simp)
        · rename_i hbuffer
          refine .inl ⟨_,(Except.ok.inj h).symm,gathered_run hblock _ rfl id,?_⟩
          rintro other hrepairs
          obtain ⟨found,hfound,hbuffered,_⟩:=hrepairs.2.2.2
          obtain ⟨_,rfl⟩:=hsame other found hrepairs hfound
          exact hbuffer hbuffered
    · rename_i hnone
      refine .inl ⟨state,(Except.ok.inj h).symm,.refl,?_⟩
      rintro other hrepairs
      obtain ⟨found,hfound,_⟩:=hrepairs.2.2.2
      obtain rfl:=Option.some.inj (hindex.symm.trans hrepairs.2.1)
      exact hnone found hfound

/-- What an event does: the desk moves, a block is replaced, or a repair ends the answer. -/
inductive Reduces (env:CodexEnv) (state:ReducerState) (payload:JsonValue) :
  Outcome → Prop where
 | kept {next:ReducerState} (hrun:DeskRun (desk state) (desk next))
  (hkept:¬Replaces state payload) (hgoing:¬Interrupts env state payload) :
  Reduces env state payload (.going next)
 | replaced {next:ReducerState} {outputIndex:ℕ} {entry:BlockKind×ℕ}
  (hopens:OpensAt env state next outputIndex)
  (hblock:(desk state).blocks outputIndex=some entry) (hreplaces:Replaces state payload) :
  Reduces env state payload (.going next)
 | repaired {outputIndex index:ℕ} {repaired:String} {finish:ReducerEvent}
  (hfinish:isFinish finish=true)
  (hrun:DeskRun (desk state) (repairedDesk state outputIndex index repaired))
  (hrepairs:Repairs env state payload outputIndex) :
  Reduces env state payload
   (.finished ((repairedDesk state outputIndex index repaired).out++[finish]))

theorem not_replaces (htype:strField "type" payload≠itemAdded) :
  ¬Replaces state payload := fun hreplaces=>htype hreplaces.1

theorem not_interrupts (htype:strField "type" payload≠argumentsDelta) :
  ¬Interrupts env state payload := fun hinterrupts=>htype hinterrupts.choose_spec.1.1

theorem reduceEvent_run (hadded:strField "type" payload≠itemAdded)
  (hdelta:strField "type" payload≠argumentsDelta) (h:reduceEvent env state payload=.ok outcome) :
  ∃ next,outcome=.going next ∧ DeskRun (desk (noteEvent state (strField "type" payload))) (desk next):=by
 unfold reduceEvent at h
 dsimp only at h
 generalize noteEvent state (strField "type" payload)=noted at h ⊢
 have hpush:DeskRun (desk noted) (desk (noted.push .progress)) :=
  .single (.inside .progress trivial)
 have hgoing:∀ {next:ReducerState},Except.ok (.going next)=(.ok outcome : Reduced Outcome) →
   DeskRun (desk noted) (desk next) → ∃ next,outcome=.going next ∧ DeskRun (desk noted) (desk next) :=
  fun hnext hrun=>⟨_,(Except.ok.inj hnext).symm,hrun⟩
 obtain ⟨_,h⟩ | ⟨_,h⟩:=ite_eq_iff.mp h
 · obtain ⟨_,h⟩ | ⟨_,h⟩:=ite_eq_iff.mp h
   · exact absurd h (by simp)
   · exact hgoing h hpush
 obtain ⟨_,h⟩ | ⟨_,h⟩:=ite_eq_iff.mp h
 · exact hgoing h hpush
 obtain ⟨_,h⟩ | ⟨_,h⟩:=ite_eq_iff.mp h
 · exact hgoing h hpush
 obtain ⟨_,h⟩ | ⟨_,h⟩:=ite_eq_iff.mp h
 · exact absurd h (by simp [reduceFailed])
 obtain ⟨htype,_⟩ | ⟨_,h⟩:=ite_eq_iff.mp h
 · exact absurd (beq_iff_eq.mp htype) hadded
 obtain ⟨_,h⟩ | ⟨_,h⟩:=ite_eq_iff.mp h
 · exact hgoing h (reduceSummaryPartAdded_run payload)
 obtain ⟨_,h⟩ | ⟨_,h⟩:=ite_eq_iff.mp h
 · exact hgoing h (reduceSummaryDelta_run payload)
 obtain ⟨_,h⟩ | ⟨_,h⟩:=ite_eq_iff.mp h
 · exact hgoing h (reduceTextDelta_run payload)
 obtain ⟨htype,_⟩ | ⟨_,h⟩:=ite_eq_iff.mp h
 · exact absurd (beq_iff_eq.mp htype) hdelta
 obtain ⟨_,h⟩ | ⟨_,h⟩:=ite_eq_iff.mp h
 · exact hgoing h (reduceArgumentsDone_run payload)
 obtain ⟨_,h⟩ | ⟨_,h⟩:=ite_eq_iff.mp h
 · exact hgoing h (reduceItemDone_run payload)
 obtain ⟨_,h⟩ | ⟨_,h⟩:=ite_eq_iff.mp h
 · exact hgoing h .refl
 · exact hgoing h .refl

theorem reduceEvent_itemAdded (htype:strField "type" payload=itemAdded) :
  reduceEvent env state payload = .ok (.going (reduceItemAdded env (noteEvent state itemAdded) payload)):=by
 unfold reduceEvent
 rw [htype]
 rfl

theorem reduceEvent_argumentsDelta (htype:strField "type" payload=argumentsDelta) :
  reduceEvent env state payload = reduceArgumentsDelta env (noteEvent state argumentsDelta) payload:=by
 unfold reduceEvent
 rw [htype]
 rfl

variable {next:ReducerState}

theorem opens_run (h:OpensAt env state next outputIndex)
  (hfree:(desk state).blocks outputIndex=none) : DeskRun (desk state) (desk next):=by
 obtain ⟨hrun,_,hblocks⟩:=closeThinking_run env state
 obtain ⟨kind,event,hstarts,hnext⟩:=h.opens
 rw [hnext]
 exact .tail hrun (.openBlock (by rw [hblocks]; exact hfree) hstarts)

theorem event_reduces (h:reduceEvent env state payload=.ok outcome) :
  Reduces env (noteEvent state (strField "type" payload)) payload outcome:=by
 by_cases hadded:strField "type" payload=itemAdded
 · have hgoing:¬Interrupts env (noteEvent state itemAdded) payload :=
    not_interrupts (by rw [hadded]; decide)
   obtain rfl:=Except.ok.inj ((reduceEvent_itemAdded hadded).symm.trans h)
   rw [hadded]
   obtain ⟨item,hitem,htype,hopens⟩ | ⟨hrun,hother⟩ :=
    reduceItemAdded_cases env (noteEvent state itemAdded) payload
   · cases hblock:state.blocksByOutputIndex.lookup ((outputIndexOf payload).getD 0) with
     | none=>
      refine .kept (opens_run hopens (congrArg (Option.map entryOf) hblock)) ?_ hgoing
      rintro ⟨_,_,_,_,hsome⟩
      exact absurd hblock (Option.isSome_iff_ne_none.mp hsome)
     | some block=>
      exact .replaced hopens (congrArg (Option.map entryOf) hblock)
       ⟨hadded,item,hitem,htype,Option.isSome_of_eq_some hblock⟩
   · refine .kept hrun ?_ hgoing
     rintro ⟨_,item,hitem,htype,_⟩
     exact hother item hitem htype
 · by_cases hdelta:strField "type" payload=argumentsDelta
   · rw [reduceEvent_argumentsDelta hdelta] at h
     obtain ⟨next,rfl,hrun,hnone⟩ | ⟨outputIndex,index,repaired,finish,rfl,hfinish,hrun,
      hrepairs⟩ := reduceArgumentsDelta_cases hdelta h
     · exact .kept hrun (not_replaces hadded) fun ⟨outputIndex,hrepairs,_⟩=>
        hnone outputIndex hrepairs
     · exact .repaired hfinish hrun hrepairs
   · obtain ⟨next,rfl,hrun⟩:=reduceEvent_run hadded hdelta h
     exact .kept hrun (not_replaces hadded) (not_interrupts hdelta)

variable {after:Desk} {reading:Reading}

theorem finish_wellFormed (h:Tracks after reading) {finish:ReducerEvent}
  (hfinish:isFinish finish=true) : WellFormed (after.out++[finish]) ↔ reading.opened=[]:=by
 have hread:readAll (after.out++[finish])=reading.finish:=by
  rw [h.next,read_going h.going]
  cases finish with
  | finish=>rfl
  | _=>exact absurd hfinish (by simp [isFinish])
 constructor
 · rintro ⟨last,hlast,_⟩
   have hended:=hread.symm.trans hlast
   unfold Reading.finish at hended
   split at hended
   · rename_i hopened
     exact List.isEmpty_iff.mp hopened
   · exact absurd hended (by simp)
 · intro hopened
   refine ⟨{ reading with finished := true },?_,rfl,?_⟩
   · rw [hread]
     exact if_pos (List.isEmpty_iff.mpr hopened)
   · change reading.used.Perm (List.range reading.used.length)
     rw [h.used,List.length_range]

theorem describeOpenBlocks_isEmpty {blocks:AList fun _ : ℕ=>BlockState}
  (h:(describeOpenBlocks blocks).isEmpty=true) (outputIndex:ℕ) :
  blocks.lookup outputIndex=none:=by
 have hlength:(describeOpenBlocks blocks).length=blocks.entries.length:=by
  unfold describeOpenBlocks
  rw [List.length_map,List.length_insertionSort]
 have hentries:blocks.entries=[]:=by
  rw [List.isEmpty_iff.mp h] at hlength
  exact List.eq_nil_of_length_eq_zero hlength.symm
 rw [AList.lookup,hentries]
 rfl

variable {out:List ReducerEvent}

theorem finishReduction_ok (h:finishReduction env state=.ok out) :
  (∀ outputIndex,(desk state).blocks outputIndex=none) ∧
   ∃ finish,isFinish finish=true ∧ out=(desk (state.closeThinking env)).out++[finish]:=by
 unfold finishReduction at h
 dsimp only at h
 split at h
 · exact absurd h (by simp)
 · rename_i hopen
   rw [Bool.or_eq_true,not_or,Bool.not_eq_true',Bool.not_eq_true',Bool.not_eq_false,Bool.not_eq_false] at hopen
   refine ⟨fun outputIndex=>?_,_,rfl,(Except.ok.inj h).symm⟩
   exact congrArg (Option.map entryOf) (describeOpenBlocks_isEmpty hopen.2 outputIndex)

theorem live_of_closed (h:∀ outputIndex,(desk state).blocks outputIndex=none)
  (entry:BlockKind×ℕ) : ¬(desk (state.closeThinking env)).Live entry:=by
 obtain ⟨_,hidle,hblocks⟩:=closeThinking_run env state
 rintro (⟨outputIndex,hentry⟩ | ⟨index,hindex,_⟩)
 · rw [hblocks,h outputIndex] at hentry
   exact absurd hentry (by simp)
 · rw [hidle] at hindex
   exact absurd hindex (by simp)

theorem orderly_going (payloads:List JsonValue) (h:reduceEvent env state payload=.ok (.going next)) :
  Orderly env state (payload::payloads) ↔
   ¬Replaces state payload ∧ ¬Interrupts env state payload ∧ Orderly env next payloads:=by
 rw [Orderly,h]

theorem orderly_finished (payloads:List JsonValue) (h:reduceEvent env state payload=.ok (.finished out)) :
  Orderly env state (payload::payloads) ↔ ¬Replaces state payload ∧ ¬Interrupts env state payload:=by
 rw [Orderly,h]
 simp only [and_true]

theorem interrupts_repaired {index:ℕ} {repaired:String} (h:Repairs env state payload outputIndex) :
  Interrupts env state payload ↔ ∃ entry,(repairedDesk state outputIndex index repaired).Live entry:=by
 rw [live_repaired]
 constructor
 · rintro ⟨other,hrepairs,hopen⟩
   obtain rfl:=Option.some.inj (h.2.1.symm.trans hrepairs.2.1)
   exact hopen
 · exact fun hopen=>⟨outputIndex,h,hopen⟩

/-- What is open is known, and nothing is lost yet; or something is lost. -/
structure Decides (desk:Desk) (reading:Reading) (out:List ReducerEvent) (orderly:Prop) :
  Prop where
 known : (∀ entry∈reading.opened,desk.Live entry) → (WellFormed out ↔ orderly)
 lost : ∀ entry,Lost desk reading entry → ¬WellFormed out

theorem Decides.of_follows {before:Desk} {next:Reading} {orderly:Prop}
  (h:Follows before reading after next) (hafter:Decides after next out orderly)
  : Decides before reading out orderly :=
 ⟨fun hall=>hafter.known (h.known hall),fun entry hlost=>hafter.lost entry (h.lost entry hlost)⟩

theorem decides_finish (h:Tracks after reading) {finish:ReducerEvent} (hfinish:isFinish finish=true) :
  Decides after reading (after.out++[finish]) (∀ entry,¬after.Live entry):=by
 refine ⟨fun hall=>(finish_wellFormed h hfinish).trans ?_,fun entry hlost hwell=>?_⟩
 · constructor
   · intro hopened entry hlive
     have hmem:=h.live entry hlive
     rw [hopened] at hmem
     exact absurd hmem List.not_mem_nil
   · exact fun hnone=>List.eq_nil_iff_forall_not_mem.mpr
      fun entry hmem=>hnone entry (hall entry hmem)
 · have hmem:=hlost.1
   rw [(finish_wellFormed h hfinish).mp hwell] at hmem
   exact absurd hmem List.not_mem_nil

theorem decides_replaced (h:Tracks (desk state) reading) {entry:BlockKind×ℕ} (hopens:OpensAt env state next outputIndex)
  (hblock:(desk state).blocks outputIndex=some entry) {later:Prop}
  (hlater:∀ reading,Tracks (desk next) reading → Decides (desk next) reading out later) : ¬WellFormed out:=by
 obtain ⟨hrun,_,hblocks⟩:=closeThinking_run env state
 obtain ⟨kind,event,hstarts,hnext⟩:=hopens.opens
 obtain ⟨closed,hclosed⟩:=run_follows h hrun
 have htracks:=openAt_tracks hclosed.tracks outputIndex hstarts
 rw [← hblocks] at hblock
 have hlost:Lost (openAt (desk (state.closeThinking env)) outputIndex kind event)
   (closed.opening kind (desk (state.closeThinking env)).next) entry :=
  replaced_lost hclosed.tracks hblock
 rw [← hnext] at htracks hlost
 exact (hlater _ htracks).lost entry hlost

theorem reduceAll_decides (payloads:List JsonValue) :
  ∀ {state:ReducerState} {reading:Reading} {out:List ReducerEvent},
   Tracks (desk state) reading → reduceAll env state payloads=.ok out →
    Decides (desk state) reading out (Orderly env state payloads):=by
 induction payloads with
 | nil=>
  intro state reading out h hout
  obtain ⟨hclosed,finish,hfinish,rfl⟩:=finishReduction_ok hout
  obtain ⟨next,hnext⟩:=run_follows h (closeThinking_run env state).1
  have hends:=Decides.of_follows hnext (decides_finish hnext.tracks hfinish)
  exact ⟨fun hall=>(hends.known hall).trans (iff_true_intro (live_of_closed hclosed)),hends.lost⟩
 | cons payload payloads ih=>
  intro state reading out h hout
  unfold reduceAll at hout
  cases hevent:reduceEvent env state payload with
  | error error=>
   rw [hevent] at hout
   exact absurd hout (by simp)
  | ok outcome=>
   rw [hevent] at hout
   cases event_reduces hevent with
   | kept hrun hkept hgoing=>
    obtain ⟨next,hnext⟩:=run_follows h hrun
    have hlater:=Decides.of_follows hnext (ih hnext.tracks hout)
    have horderly:=orderly_going payloads hevent
    refine ⟨fun hall=>(hlater.known hall).trans ?_,hlater.lost⟩
    exact ⟨fun hrest=>horderly.mpr ⟨hkept,hgoing,hrest⟩,fun hall=>(horderly.mp hall).2.2⟩
   | replaced hopens hblock hreplaces=>
    have htracks:Tracks (desk (noteEvent state (strField "type" payload))) reading:=h
    have hbroken:=decides_replaced htracks hopens hblock fun _ hnext=>ih hnext hout
    have horderly:=orderly_going payloads hevent
    exact ⟨fun _=>⟨fun hwell=>absurd hwell hbroken,
     fun hall=>absurd hreplaces (horderly.mp hall).1⟩,fun _ _=>hbroken⟩
   | repaired hfinish hrun hrepairs=>
    obtain rfl:=Except.ok.inj hout
    obtain ⟨next,hnext⟩:=run_follows h hrun
    have hends:=Decides.of_follows hnext (decides_finish hnext.tracks hfinish)
    have hkept:¬Replaces state payload:=not_replaces (by rw [hrepairs.1]; decide)
    refine ⟨fun hall=>(hends.known hall).trans ?_,hends.lost⟩
    rw [orderly_finished payloads hevent,and_iff_right hkept,← not_exists]
    exact not_congr (interrupts_repaired hrepairs).symm

theorem tracks_empty : Tracks (desk {}) ⟨[],[],false⟩:=by
 refine ⟨rfl,rfl,rfl,?_,?_,?_,?_⟩
 · rintro entry (⟨_,hentry⟩ | ⟨_,hindex,_⟩)
   · exact absurd hentry (by simp [desk])
   · exact absurd hindex (by simp [desk])
 · exact fun _ hmem=>absurd hmem List.not_mem_nil
 · exact fun _ _ _ _ hentry=>absurd hentry (by simp [desk])
 · exact fun _ _ _ hentry=>absurd hentry (by simp [desk])

/-- An answer is well formed if and only if no block was replaced and no repair came while
another block or some thinking was open. -/
theorem wellFormed_iff_orderly (env:CodexEnv) (events:List String) (out:List ReducerEvent)
    (h:reduceUpstream env events=.ok out) : WellFormed out ↔ Orderly env {} (events.filterMap (payloadOf env)) :=
  (reduceAll_decides _ tracks_empty h).known fun _ hmem=>absurd hmem List.not_mem_nil

theorem payloadOf_trimmed {env:CodexEnv} {data:String}
  (htrim:XmlElements.trim data.toList=data.toList) (hfull:data.toList≠[]) : payloadOf env data=env.fromStr data:=by
 unfold payloadOf
 dsimp only
 rw [htrim,if_neg (by simpa using hfull),String.ofList_toList]

theorem payloadOf_table {env:CodexEnv} {table:List (String×JsonValue)}
  (henv:env.fromStr=fun text=>List.lookup text table)
  (hdistinct:(table.map fun entry=>entry.1.toList).Nodup)
  (hbare:∀ chars∈table.map fun entry=>entry.1.toList,
   XmlElements.trim chars=chars ∧ chars≠[]) :
  ∀ entry∈table,payloadOf env entry.1=some entry.2:=by
 intro entry hentry
 obtain ⟨htrim,hfull⟩:=hbare entry.1.toList (List.mem_map_of_mem hentry)
 rw [payloadOf_trimmed htrim hfull,henv]
 change List.lookup entry.1 table=some entry.2
 clear henv hbare
 induction table with
 | nil=>exact absurd hentry List.not_mem_nil
 | cons first rest ih=>
  obtain ⟨key,payload⟩:=first
  rw [List.map_cons,List.nodup_cons] at hdistinct
  rcases List.mem_cons.mp hentry with rfl | hmem
  · exact List.lookup_cons_self
  · have hne:entry.1≠key:=fun heq=>
     hdistinct.1 (heq ▸ List.mem_map_of_mem (f := fun entry=>entry.1.toList) hmem)
    rw [List.lookup_cons,beq_false_of_ne hne]
    exact ih hdistinct.2 hmem


def addedText : String :=
 "\x7b\"type\":\"response.output_item.added\",\"output_index\":0," ++ "\"item\":\x7b\"type\":\"message\"\x7d\x7d"

def addedPayload : JsonValue :=
 .object [("item",.object [("type",.string "message")]),("output_index",.number "0"),("type",.string itemAdded)]

def doneText : String := "\x7b\"type\":\"response.output_item.done\",\"output_index\":0\x7d"

def donePayload : JsonValue :=
 .object [("output_index",.number "0"),("type",.string "response.output_item.done")]

def completedText : String := "\x7b\"type\":\"response.completed\"\x7d"

def completedPayload : JsonValue := .object [("type",.string "response.completed")]

/-- Reads the three texts, and knows no others. -/
def messageEnv : CodexEnv where
 fromStr := fun text=>List.lookup text [(addedText,addedPayload),(doneText,donePayload),
  (completedText,completedPayload)]
 toJson := fun _=>none
 encodeBase64 := id
 isAlphanumeric := Char.isAlphanum
 toLowercase := String.toLower
 truncate := fun _=>none
 parseTruncated := fun _=>none

def messageEnd : ReducerEvent :=
 .finish stopEndTurn "response.completed" true none 0 none []

theorem messageEnv_reads : payloadOf messageEnv addedText=some addedPayload ∧
  payloadOf messageEnv doneText=some donePayload ∧ payloadOf messageEnv completedText=some completedPayload:=by
 have henv:messageEnv.fromStr=fun text=>List.lookup text [(addedText,addedPayload),
   (doneText,donePayload),(completedText,completedPayload)] := rfl
 have hreads:=payloadOf_table henv (by
  unfold addedText doneText completedText
  simp -index only [List.map_cons,List.map_nil,String.toList_append,String.toList_ofList]
  decide +kernel) (by
  unfold addedText doneText completedText
  simp -index only [List.map_cons,List.map_nil,String.toList_append,String.toList_ofList]
  decide +kernel)
 exact ⟨hreads (addedText,addedPayload) (by simp),hreads (doneText,donePayload) (by simp),
  hreads (completedText,completedPayload) (by simp)⟩

theorem wellFormed_iff_orderly_message :
    WellFormed [.textStart 0,.textStop 0,messageEnd] ↔
      Orderly messageEnv {} [addedPayload,donePayload,completedPayload]:=by
  obtain ⟨hadded,hdone,hcompleted⟩:=messageEnv_reads
  have hpayloads : [addedText,doneText,completedText].filterMap (payloadOf messageEnv) =
      [addedPayload,donePayload,completedPayload]:=by
    rw [List.filterMap_cons_some hadded,List.filterMap_cons_some hdone,
      List.filterMap_cons_some hcompleted,List.filterMap_nil]
  have hiff:=wellFormed_iff_orderly messageEnv [addedText,doneText,completedText]
    [.textStart 0,.textStop 0,messageEnd] (by
      unfold reduceUpstream
      rw [hpayloads]
      rfl)
  rwa [hpayloads] at hiff

/-- The block that the second message replaces is never closed. -/
theorem replaced_block_stays_open :
    reduceUpstream messageEnv [addedText,addedText,doneText,completedText] =
        .ok [.textStart 0,.textStart 1,.textStop 1,messageEnd] ∧
      ¬WellFormed [.textStart 0,.textStart 1,.textStop 1,messageEnd]:=by
  obtain ⟨hadded,hdone,hcompleted⟩:=messageEnv_reads
  refine ⟨?_,?_⟩
  · unfold reduceUpstream
    rw [List.filterMap_cons_some hadded,List.filterMap_cons_some hadded,
      List.filterMap_cons_some hdone,List.filterMap_cons_some hcompleted,List.filterMap_nil]
    rfl
  · rintro ⟨reading,hreading,_⟩
    exact absurd hreading (by simp [readAll,Reading.read,Reading.start,Reading.stop,
      Reading.finish,messageEnd])

end CursorProxy.CodexOrderly
