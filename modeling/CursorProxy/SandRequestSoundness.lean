import CursorProxy.SandRequests
import CursorProxy.Traces

namespace CursorProxy.SandRequestSoundness
open JsonValues SandRequests ToolNames XmlElements

variable {env:SandRequestEnv} {mode:Bool} {names:List (String×String)} {role:ℕ}

theorem blank_iff {text:Text} : blank text=true ↔ ∀ char∈text,isWhitespace char=true:=by
 unfold blank trim trimStart
 rw [List.isEmpty_iff,List.rdropWhile_eq_nil_iff]
 constructor
 · intro h char hmem
   rw [← @List.takeWhile_append_dropWhile _ isWhitespace text] at hmem
   rcases List.mem_append.mp hmem with hspace | hrest
   · exact List.mem_takeWhile_imp hspace
   · exact h char hrest
 · intro h char hmem
   exact h char (List.dropWhile_subset _ hmem)

theorem blank_append (target value:Text) : blank (appendText target value)=(blank target&&blank value):=by
 rw [Bool.eq_iff_iff,Bool.and_eq_true,blank_iff,blank_iff,blank_iff]
 unfold appendText
 cases value with
 | nil=>simp
 | cons char value=>
  cases target with
  | nil=>simp
  | cons first target=>
   have hnewline:isWhitespace '\n' = true:=by decide
   simp [or_imp,forall_and,hnewline]
   tauto

/-- The block leaves something in the draft of its message. -/
def carries (env:SandRequestEnv) (mode:Bool) (role:ℕ) (block:JsonValue) : Bool :=
 match blockKind block with
 | .text | .other=>((str block "text").map String.toList).any fun text=>!blank text
 | .thinking=>decide (role=roleAssistant ∧ mode=false) &&
   (historicalReasoningPart block).isSome
 | .compaction=>((str block "content").map String.toList).any fun text=>!blank text
 | .image=>(imagePart env block).isSome
 | .document=>(filePart env block).isSome||(documentText block).any fun text=>!blank text
 | .toolUse=>decide (role=roleAssistant ∧
   ((str block "id").getD "" ≠ "" ∨ (str block "name").getD "" ≠ ""))
 | .toolResult=>decide ((str block "tool_use_id").getD "" ≠ "")
 | .server=>(env.toJson block).any fun text=>!blank text

def live (draft:Draft) : Bool :=
 !blank draft.text||!draft.parts.isEmpty||!draft.toolCalls.isEmpty ||
  !draft.toolResults.isEmpty||!draft.reasoningParts.isEmpty

theorem live_write (draft:Draft) (value:Option Text) :
  live (draft.write value)=(live draft||value.any fun text=>!blank text):=by
 unfold Draft.write live
 cases value with
 | none=>simp
 | some value=>
  dsimp only [Option.any_some]
  rw [blank_append]
  cases blank draft.text <;> cases blank value <;> simp

theorem live_pushPart (draft:Draft) (part:JsonValue) : live (draft.pushPart part)=true:=by
 unfold Draft.pushPart live
 simp

theorem live_convertBlock (draft:Draft) (block:JsonValue) :
  live (convertBlock env mode names role draft block) = (live draft||carries env mode role block):=by
 unfold convertBlock carries
 cases blockKind block with
 | text=>exact live_write _ _
 | other=>exact live_write _ _
 | compaction=>exact live_write _ _
 | server=>exact live_write _ _
 | thinking=>
  dsimp only
  split_ifs with hrole
  · cases historicalReasoningPart block with
    | none=>simp
    | some part=>simp [live,hrole]
  · simp [hrole]
 | image=>
  cases imagePart env block with
  | none=>simp
  | some part=>
   rw [live_pushPart]
   simp
 | document=>
  cases filePart env block with
  | none=>exact live_write _ _
  | some part=>
   rw [live_pushPart]
   simp
 | toolUse=>
  dsimp only
  split_ifs with hcall
  · simp [live,hcall]
  · simp [hcall]
 | toolResult=>
  dsimp only
  split_ifs with hresult
  · simp [live,hresult]
  · simp [hresult]

theorem live_blocks (draft:Draft) (blocks:List JsonValue) :
  live (blocks.foldl (convertBlock env mode names role) draft) =
   (live draft||blocks.any (carries env mode role)):=by
 induction blocks generalizing draft with
 | nil=>simp
 | cons block blocks ih=>rw [List.foldl_cons,ih,live_convertBlock,List.any_cons,
   Bool.or_assoc]

def isCall (role:ℕ) (block:JsonValue) : Bool :=
 decide (blockKind block=.toolUse)&&decide (role=roleAssistant ∧
  ((str block "id").getD "" ≠ "" ∨ (str block "name").getD "" ≠ ""))

def isResult (block:JsonValue) : Bool :=
 decide (blockKind block=.toolResult)&&decide ((str block "tool_use_id").getD "" ≠ "")

theorem write_lists (draft:Draft) (value:Option Text) :
  (draft.write value).toolCalls=draft.toolCalls ∧ (draft.write value).toolResults=draft.toolResults:=by
 cases value <;> exact ⟨rfl,rfl⟩

theorem pushPart_lists (draft:Draft) (part:JsonValue) :
  (draft.pushPart part).toolCalls=draft.toolCalls ∧ (draft.pushPart part).toolResults=draft.toolResults:=by
 unfold Draft.pushPart flushTextPart
 split_ifs <;> exact ⟨rfl,rfl⟩

theorem block_lists (draft:Draft) (block:JsonValue) :
  (convertBlock env mode names role draft block).toolCalls =
    draft.toolCalls++([block].filter (isCall role)).map callEntry ∧
   (convertBlock env mode names role draft block).toolResults =
    draft.toolResults++([block].filter isResult).map (resultEntry names):=by
 unfold convertBlock isCall isResult
 cases hkind:blockKind block with
 | text=>simpa [hkind] using write_lists draft _
 | other=>simpa [hkind] using write_lists draft _
 | compaction=>simpa [hkind] using write_lists draft _
 | server=>simpa [hkind] using write_lists draft _
 | thinking=>
  dsimp only
  split_ifs
  · cases historicalReasoningPart block <;> simp [hkind]
  · simp [hkind]
 | image=>
  cases imagePart env block with
  | none=>simp [hkind]
  | some part=>simpa [hkind] using pushPart_lists draft part
 | document=>
  cases filePart env block with
  | none=>simpa [hkind] using write_lists draft _
  | some part=>simpa [hkind] using pushPart_lists draft part
 | toolUse=>
  dsimp only
  split_ifs with hcall
  · simp [hkind,hcall]
  · simp [hkind,hcall]
 | toolResult=>
  dsimp only
  split_ifs with hresult
  · simp [hkind,hresult]
  · simp [hkind,hresult]

theorem blocks_lists (draft:Draft) (blocks:List JsonValue) :
  (blocks.foldl (convertBlock env mode names role) draft).toolCalls =
    draft.toolCalls++(blocks.filter (isCall role)).map callEntry ∧
   (blocks.foldl (convertBlock env mode names role) draft).toolResults =
    draft.toolResults++(blocks.filter isResult).map (resultEntry names):=by
 induction blocks generalizing draft with
 | nil=>simp
 | cons block blocks ih=>
  obtain ⟨hcalls,hresults⟩:=ih (convertBlock env mode names role draft block)
  obtain ⟨hcall,hresult⟩ :
    (convertBlock env mode names role draft block).toolCalls=_ ∧
     (convertBlock env mode names role draft block).toolResults=_ := block_lists draft block
  rw [List.foldl_cons,hcalls,hresults,hcall,hresult,List.append_assoc,List.append_assoc,
   ← List.map_append,← List.map_append,← List.filter_append,← List.filter_append]
  exact ⟨rfl,rfl⟩

def toolParts (message:SandInferenceMessage) : List JsonValue :=
 ((message.toolContent.bind (JsonValue.get "parts")).bind JsonValue.asArray).getD []

/-- What a converted message has of the tools depends on its role. -/
def Placed (message:SandInferenceMessage) : Prop :=
 (message.toolContent.isSome=true → message.role=roleTool ∧ message.toolCalls=[]) ∧
  (message.toolCalls≠[] → message.role=roleAssistant)

def draftOf (env:SandRequestEnv) (mode:Bool) (names:List (String×String)) (message:Message) : Draft :=
 (messageBlocks message).foldl (convertBlock env mode names (sandRole message)) .empty

def sent (role:ℕ) (draft:Draft) : List SandInferenceMessage :=
 if !draft.toolResults.isEmpty then
  .tool draft.toolResults ::
   if !blank draft.text||!draft.parts.isEmpty then
    [contentMessage role draft.text draft.parts []]
   else []
 else if !blank draft.text||!draft.parts.isEmpty||!draft.toolCalls.isEmpty ||
   !draft.reasoningParts.isEmpty then
  [{ contentMessage role draft.text draft.parts draft.toolCalls with
   reasoningParts := draft.reasoningParts }]
 else []

theorem convert_sent (message:Message) : convertMessage env mode names message =
  sent (sandRole message) (draftOf env mode names message) := rfl

def callBlocks (message:Message) : List JsonValue :=
 (messageBlocks message).filter (isCall (sandRole message))

def resultBlocks (message:Message) : List JsonValue := (messageBlocks message).filter isResult

theorem draft_calls (message:Message) : (draftOf env mode names message).toolCalls=(callBlocks message).map callEntry :=
 (blocks_lists _ _).1

theorem draft_results (message:Message) :
  (draftOf env mode names message).toolResults = (resultBlocks message).map (resultEntry names) :=
 (blocks_lists _ _).2

theorem convert_results (message:Message) :
  (convertMessage env mode names message).flatMap toolParts = (resultBlocks message).map (resultEntry names):=by
 have hdraft:(draftOf env mode names message).toolResults=_:=draft_results message
 rw [convert_sent,← hdraft]
 generalize draftOf env mode names message=draft
 unfold sent
 cases hresults:draft.toolResults with
 | nil=>
  rw [List.isEmpty_nil,Bool.not_true,if_neg Bool.false_ne_true]
  split_ifs <;> rfl
 | cons result results=>
  rw [List.isEmpty_cons,Bool.not_false,if_pos rfl,List.flatMap_cons]
  split_ifs <;> simp [toolParts,SandInferenceMessage.tool,contentMessage,JsonValue.get,JsonValue.asArray]

variable {message:Message}

theorem convert_calls (hapart:resultBlocks message=[] ∨ callBlocks message=[]) :
  (convertMessage env mode names message).flatMap SandInferenceMessage.toolCalls =
   (callBlocks message).map callEntry:=by
 have hresults:(draftOf env mode names message).toolResults=_:=draft_results message
 have hcalls:(draftOf env mode names message).toolCalls=_:=draft_calls message
 rw [convert_sent,← hcalls]
 generalize draftOf env mode names message=draft at hresults hcalls ⊢
 unfold sent
 cases hempty:draft.toolResults with
 | nil=>
  rw [List.isEmpty_nil,Bool.not_true,if_neg Bool.false_ne_true]
  split_ifs with hlive
  · exact List.append_nil _
  · simp only [Bool.or_eq_true,not_or] at hlive
    have hnone:draft.toolCalls.isEmpty=true:=by
     by_contra hsome
     exact hlive.1.2 (by simpa using hsome)
    rw [List.isEmpty_iff.mp hnone]
    rfl
 | cons result results=>
  rw [hempty] at hresults
  rcases hapart with hnone | hnone
  · rw [hnone] at hresults
    cases hresults
  · rw [hnone] at hcalls
    rw [hcalls]
    rw [List.isEmpty_cons,Bool.not_false,if_pos rfl,List.flatMap_cons]
    split_ifs <;> rfl

theorem convert_nonempty (message:Message) :
  convertMessage env mode names message≠[] ↔
   ∃ block∈messageBlocks message,carries env mode (sandRole message) block=true:=by
 have hlive:live (draftOf env mode names message) =
   (messageBlocks message).any (carries env mode (sandRole message)) :=
  (live_blocks .empty _).trans (Bool.false_or _)
 rw [← List.any_eq_true,← hlive,convert_sent]
 generalize draftOf env mode names message=draft
 unfold sent live
 cases draft.toolResults.isEmpty <;> cases blank draft.text <;> cases draft.parts.isEmpty <;>
  cases draft.toolCalls.isEmpty <;> cases draft.reasoningParts.isEmpty <;> simp

variable {converted:SandInferenceMessage}

theorem convert_placed (h:converted∈convertMessage env mode names message) : Placed converted:=by
 have hcalls:(draftOf env mode names message).toolCalls=_:=draft_calls message
 have hrole (h:(draftOf env mode names message).toolCalls≠[]) : sandRole message=roleAssistant:=by
  rw [hcalls] at h
  obtain ⟨block,hblock⟩:=List.exists_mem_of_ne_nil _ (fun hnil=>h (by rw [hnil]; rfl) :
   callBlocks message≠[])
  have hcall:=(List.mem_filter.mp hblock).2
  unfold isCall at hcall
  rw [Bool.and_eq_true,decide_eq_true_eq,decide_eq_true_eq] at hcall
  exact hcall.2.1
 rw [convert_sent] at h
 unfold sent at h
 split_ifs at h
 · rcases List.mem_cons.mp h with rfl | h
   · exact ⟨fun _=>⟨rfl,rfl⟩,fun hcalls=>(hcalls rfl).elim⟩
   · rw [List.mem_singleton.mp h]
     exact ⟨fun hcontent=>(nomatch hcontent),fun hcalls=>(hcalls rfl).elim⟩
 · rcases List.mem_cons.mp h with rfl | h
   · exact ⟨fun _=>⟨rfl,rfl⟩,fun hcalls=>(hcalls rfl).elim⟩
   · cases h
 · rw [List.mem_singleton.mp h]
   exact ⟨fun hcontent=>(nomatch hcontent),hrole⟩
 · cases h

theorem convert_first {front back:List SandInferenceMessage}
  (h:convertMessage env mode names message=front++converted::back) (hparts:toolParts converted≠[]) : front=[]:=by
 rw [convert_sent] at h
 unfold sent at h
 cases front with
 | nil=>rfl
 | cons first front=>
  exfalso
  split_ifs at h
  · obtain ⟨-,htail⟩:=List.cons.inj h
    cases front with
    | nil=>
     obtain ⟨hsame,-⟩:=List.cons.inj htail
     exact hparts (hsame ▸ rfl)
    | cons second front=>simp at htail
  · simp at h
  · simp at h
  · simp at h

def blocksOf (messages:List Message) : List (Message×JsonValue) :=
 messages.flatMap fun message=>(messageBlocks message).map (message,·)

def ofKind (kind:BlockKind) (blocks:List (Message×JsonValue)) : List (Message×JsonValue) :=
 blocks.filter fun entry=>decide (blockKind entry.2=kind)

def ValidUse (entry:Message×JsonValue) : Prop :=
 blockKind entry.2=.toolUse → normalRole entry.1 = "assistant".toList ∧
  (trimmed entry.2 "id").isSome=true ∧ (trimmed entry.2 "name").isSome=true

def ValidResult (before:List (Message×JsonValue)) (entry:Message×JsonValue) : Prop :=
 blockKind entry.2=.toolResult →
  (normalRole entry.1 = "user".toList ∨ normalRole entry.1 = "tool".toList) ∧
   (trimmed entry.2 "tool_use_id").isSome=true ∧ ∃ use∈ofKind .toolUse before,
    trimmed use.2 "id" = trimmed entry.2 "tool_use_id"

/-- Each use is named once, and each result refers to a use in front of it. -/
structure Valid (blocks:List (Message×JsonValue)) : Prop where
 use : ∀ entry∈blocks,ValidUse entry
 unique : ((ofKind .toolUse blocks).map fun entry=>trimmed entry.2 "id").Nodup
 result : Traces.Ordered ValidResult blocks

/-- The ids that the validation knows are those of the uses it has seen. -/
structure Accepted (state:Validation) (seen:List (Message×JsonValue)) : Prop where
 valid : Valid seen
 known : ∀ id,(state.toolCalls.lookup id).isSome=true ↔ ∃ use∈ofKind .toolUse seen,trimmed use.2 "id" = some id

variable {state next:Validation} {seen:List (Message×JsonValue)} {message:Message} {block:JsonValue}

theorem ofKind_push (kind:BlockKind) (seen:List (Message×JsonValue)) (entry:Message×JsonValue) :
  ofKind kind (seen++[entry]) = ofKind kind seen++if blockKind entry.2=kind then [entry] else []:=by
 unfold ofKind
 rw [List.filter_append]
 congr 1
 split_ifs with hkind <;> simp [hkind]

theorem Accepted.push (h:Accepted state seen) (hkind:blockKind block ≠ .toolUse)
  (hresult:ValidResult seen (message,block)) (hcalls:next.toolCalls=state.toolCalls) :
  Accepted next (seen++[(message,block)]):=by
 have hsame:ofKind .toolUse (seen++[(message,block)])=ofKind .toolUse seen:=by
  rw [ofKind_push,if_neg hkind,List.append_nil]
 refine ⟨⟨fun entry hmem=>?_,?_,h.valid.result.push hresult⟩,fun id=>?_⟩
 · rcases List.mem_append.mp hmem with hold | hnew
   · exact h.valid.use entry hold
   · rw [List.mem_singleton.mp hnew]
     exact fun huse=>(hkind huse).elim
 · rw [hsame]
   exact h.valid.unique
 · rw [hsame,hcalls]
   exact h.known id

variable {index place:ℕ}

theorem Accepted.toolUse (h:Accepted state seen) (hkind:blockKind block=.toolUse)
  (haccepted:validateToolUse index place (normalRole message) state block=.ok next) :
  Accepted next (seen++[(message,block)]):=by
 unfold validateToolUse at haccepted
 split_ifs at haccepted with hrole
 split at haccepted
 · cases haccepted
 · next id hid=>
   split at haccepted
   · cases haccepted
   · next name hname=>
     split_ifs at haccepted with hduplicate
     obtain rfl:=Except.ok.inj haccepted
     have hfresh:¬∃ use∈ofKind .toolUse seen,trimmed use.2 "id" = some id :=
      fun hknown=>hduplicate ((h.known id).mpr hknown)
     have hpush:ofKind .toolUse (seen++[(message,block)]) = ofKind .toolUse seen++[(message,block)]:=by
      rw [ofKind_push,if_pos hkind]
     have hresult:ValidResult seen (message,block):=fun hresult=>
      absurd (hkind.symm.trans hresult) (by decide)
     refine ⟨⟨fun entry hmem=>?_,?_,h.valid.result.push hresult⟩,fun other=>?_⟩
     · rcases List.mem_append.mp hmem with hold | hnew
       · exact h.valid.use entry hold
       · rw [List.mem_singleton.mp hnew]
         exact fun _=>⟨not_not.mp hrole,by rw [hid]; rfl,by rw [hname]; rfl⟩
     · rw [hpush,List.map_append]
       refine List.Nodup.append h.valid.unique (List.nodup_singleton _) ?_
       intro value hold hnew
       rw [List.map_singleton,List.mem_singleton] at hnew
       obtain ⟨use,huse,hsame⟩:=List.mem_map.mp hold
       exact hfresh ⟨use,huse,hsame.trans (hnew.trans hid)⟩
     · rw [hpush,List.lookup_cons]
       by_cases hother:other=id
       · rw [hother,beq_self_eq_true]
         exact ⟨fun _=>⟨(message,block),by simp,hid⟩,fun _=>rfl⟩
       · rw [beq_false_of_ne hother]
         refine (h.known other).trans ⟨fun ⟨use,huse,hsame⟩=>
          ⟨use,List.mem_append_left _ huse,hsame⟩,fun ⟨use,huse,hsame⟩=>?_⟩
         rcases List.mem_append.mp huse with hold | hnew
         · exact ⟨use,hold,hsame⟩
         · rw [List.mem_singleton.mp hnew,hid] at hsame
           exact (hother (Option.some.inj hsame).symm).elim

theorem Accepted.toolResult (h:Accepted state seen) (hkind:blockKind block=.toolResult)
  (haccepted:validateToolResult index place (normalRole message) state block=.ok next) :
  Accepted next (seen++[(message,block)]):=by
 unfold validateToolResult at haccepted
 split_ifs at haccepted with hrole
 split at haccepted
 · cases haccepted
 · next id hid=>
   split at haccepted
   · cases haccepted
   · next expected hexpected=>
     dsimp only at haccepted
     split at haccepted
     · cases haccepted
     · split_ifs at haccepted
       obtain rfl:=Except.ok.inj haccepted
       refine h.push (by rw [hkind]; decide) (fun _=>?_) rfl
       have hrole:normalRole message = "user".toList ∨ normalRole message = "tool".toList:=by
        tauto
       obtain ⟨use,huse,hsame⟩:=(h.known id).mp (by rw [hexpected]; rfl)
       exact ⟨hrole,by rw [hid]; rfl,use,huse,hsame.trans hid.symm⟩

theorem Accepted.oneBlock (h:Accepted state seen)
  (haccepted:validateBlock index (normalRole message) state (block,place)=.ok next) :
  Accepted next (seen++[(message,block)]):=by
 have hcalls (represented:Bool) : (state.represent represented).toolCalls=state.toolCalls:=by
  cases represented <;> rfl
 unfold validateBlock at haccepted
 dsimp only at haccepted
 cases hkind:blockKind block with
 | toolUse=>
  rw [hkind] at haccepted
  exact h.toolUse hkind haccepted
 | toolResult=>
  rw [hkind] at haccepted
  exact h.toolResult hkind haccepted
 | _=>
  rw [hkind] at haccepted
  obtain rfl:=Except.ok.inj haccepted
  exact h.push (by rw [hkind]; decide)
   (fun hresult=>absurd (hkind.symm.trans hresult) (by decide)) (hcalls _)

theorem Accepted.blocks (blocks:List JsonValue) {start:ℕ} (h:Accepted state seen)
  (haccepted:(blocks.zipIdx start).foldlM (validateBlock index (normalRole message)) state=.ok next)
  : Accepted next (seen++blocks.map (message,·)):=by
 induction blocks generalizing state seen start with
 | nil=>
  obtain rfl:=Except.ok.inj haccepted
  rw [List.map_nil,List.append_nil]
  exact h
 | cons block blocks ih=>
  rw [List.zipIdx_cons,List.foldlM_cons] at haccepted
  cases hfirst:validateBlock index (normalRole message) state (block,start) with
  | error error=>
   rw [hfirst] at haccepted
   cases haccepted
  | ok middle=>
   rw [hfirst] at haccepted
   have hrest:=ih (h.oneBlock hfirst) haccepted
   rw [List.append_assoc] at hrest
   exact hrest

theorem Accepted.messages (messages:List Message) {start:ℕ} (h:Accepted state seen)
  (haccepted:(messages.zipIdx start).foldlM validateMessage state=.ok next) :
  Accepted next (seen++blocksOf messages):=by
 induction messages generalizing state seen start with
 | nil=>
  obtain rfl:=Except.ok.inj haccepted
  change Accepted state (seen++[])
  rw [List.append_nil]
  exact h
 | cons message messages ih=>
  rw [List.zipIdx_cons,List.foldlM_cons] at haccepted
  cases hfirst:validateMessage state (message,start) with
  | error error=>
   rw [hfirst] at haccepted
   cases haccepted
  | ok middle=>
   rw [hfirst] at haccepted
   unfold validateMessage at hfirst
   dsimp only at hfirst
   split_ifs at hfirst
   have hrest:=ih (h.blocks _ hfirst) haccepted
   rw [List.append_assoc] at hrest
   exact hrest

variable {request:MessagesRequest}

theorem valid_of_accepted (h:validateAnthropicRequest request=.ok ()) : Valid (blocksOf request.messages):=by
 unfold validateAnthropicRequest at h
 split_ifs at h
 have hempty:Accepted ⟨[],[],0⟩ [] :=
  ⟨⟨fun entry hmem=>(nomatch hmem),List.nodup_nil,Traces.Ordered.nil⟩,
   fun id=>⟨fun hsome=>(nomatch hsome),fun ⟨use,huse,_⟩=>(nomatch huse)⟩⟩
 split at h
 · cases h
 · next state hstate=>exact (hempty.messages request.messages hstate).valid

theorem str_of_trimmed {value:JsonValue} {key:String} (h:(trimmed value key).isSome=true) :
  ∃ text,str value key=some text ∧ text ≠ "" := by
 unfold trimmed at h
 cases hstr:str value key with
 | none=>
  rw [hstr] at h
  cases h
 | some text=>
  refine ⟨text,rfl,?_⟩
  rintro rfl
  rw [hstr] at h
  cases h

theorem trimmed_congr {value other:JsonValue} {key otherKey:String}
  (h:str value key=str other otherKey) : trimmed value key=trimmed other otherKey:=by
 unfold trimmed
 rw [h]

theorem kind_toolUse (block:JsonValue) : blockKind block=.toolUse ↔ str block "type" = some "tool_use" := by
 have hkind:blockKind block=.toolUse ↔ blockType block = "tool_use" := by
  unfold blockKind
  constructor
  · intro h
    dsimp only at h
    split_ifs at h with _ _ _ _ _ huse
    exact huse
  · intro h
    rw [h]
    decide
 rw [hkind]
 unfold blockType
 cases str block "type" with
 | none=>decide
 | some name=>exact ⟨congrArg some,fun h=>Option.some.inj h⟩

theorem use_unique {blocks:List (Message×JsonValue)} (hvalid:Valid blocks)
  {first second:Message×JsonValue} (hfirst:first∈ofKind .toolUse blocks) (hsecond:second∈ofKind .toolUse blocks)
  (hsame:trimmed first.2 "id" = trimmed second.2 "id") : first=second :=
 List.inj_on_of_nodup_map hvalid.unique hfirst hsecond hsame

theorem mem_ofKind {kind:BlockKind} {blocks:List (Message×JsonValue)} {entry:Message×JsonValue} :
  entry∈ofKind kind blocks ↔ entry∈blocks ∧ blockKind entry.2=kind:=by
 unfold ofKind
 rw [List.mem_filter,decide_eq_true_eq]

variable {messages:List Message}

theorem mem_blocksOf {entry:Message×JsonValue} :
  entry∈blocksOf messages ↔ entry.1∈messages ∧ entry.2∈messageBlocks entry.1:=by
 unfold blocksOf
 rw [List.mem_flatMap]
 constructor
 · intro ⟨message,hmessage,hentry⟩
   obtain ⟨block,hblock,rfl⟩:=List.mem_map.mp hentry
   exact ⟨hmessage,hblock⟩
 · intro ⟨hmessage,hblock⟩
   exact ⟨entry.1,hmessage,List.mem_map.mpr ⟨entry.2,hblock,rfl⟩⟩

theorem mem_toolNames {id name:String} :
  (id,name)∈assistantToolNames request ↔
   ∃ use∈ofKind .toolUse (blocksOf request.messages),
    eqIgnoreAsciiCase use.1.role "assistant" = true ∧ str use.2 "id" = some id ∧ str use.2 "name" = some name:=by
 unfold assistantToolNames
 rw [List.mem_reverse,List.mem_flatMap]
 constructor
 · intro ⟨message,hmessage,hname⟩
   obtain ⟨hmessage,hrole⟩:=List.mem_filter.mp hmessage
   obtain ⟨block,hblock,hname⟩:=List.mem_filterMap.mp hname
   split_ifs at hname with htype
   obtain ⟨found,hid,hname⟩:=Option.bind_eq_some_iff.mp hname
   obtain ⟨called,hcalled,hpair⟩:=Option.map_eq_some_iff.mp hname
   obtain ⟨rfl,rfl⟩:=Prod.mk.inj hpair
   exact ⟨(message,block),mem_ofKind.mpr ⟨mem_blocksOf.mpr ⟨hmessage,hblock⟩,
    (kind_toolUse block).mpr htype⟩,hrole,hid,hcalled⟩
 · intro ⟨use,huse,hrole,hid,hname⟩
   obtain ⟨huse,hkind⟩:=mem_ofKind.mp huse
   obtain ⟨hmessage,hblock⟩:=mem_blocksOf.mp huse
   refine ⟨use.1,List.mem_filter.mpr ⟨hmessage,hrole⟩,List.mem_filterMap.mpr ⟨use.2,hblock,?_⟩⟩
   rw [if_pos ((kind_toolUse use.2).mp hkind),hid,hname]
   rfl

theorem lookup_toolNames (hvalid:Valid (blocksOf request.messages)) {use:Message×JsonValue}
  (huse:use∈ofKind .toolUse (blocksOf request.messages)) {id:String} (hid:str use.2 "id" = some id) :
  (assistantToolNames request).lookup id =
   if eqIgnoreAsciiCase use.1.role "assistant" then str use.2 "name" else none:=by
 obtain ⟨hmem,hkind⟩:=mem_ofKind.mp huse
 obtain ⟨name,hname,-⟩:=str_of_trimmed (hvalid.use use hmem hkind).2.2
 cases hlookup:(assistantToolNames request).lookup id with
 | none=>
  rw [if_neg]
  intro hrole
  have hnone:=List.lookup_eq_none_iff.mp hlookup (id,name) (mem_toolNames.mpr ⟨use,huse,hrole,hid,hname⟩)
  simp at hnone
 | some found=>
  obtain ⟨front,back,hsplit,-⟩:=List.lookup_eq_some_iff.mp hlookup
  have hfound:(id,found)∈assistantToolNames request:=by
   rw [hsplit]
   simp
  obtain ⟨other,hother,hrole,hotherId,hotherName⟩:=mem_toolNames.mp hfound
  obtain rfl:=use_unique hvalid hother huse (trimmed_congr (hotherId.trans hid.symm))
  rw [if_pos hrole,hotherName]

/-- What the validation says of the blocks one by one. -/
structure Sane (messages:List Message) : Prop where
 use : ∀ entry∈blocksOf messages,ValidUse entry
 result : ∀ entry∈blocksOf messages,blockKind entry.2=.toolResult →
  (normalRole entry.1 = "user".toList ∨ normalRole entry.1 = "tool".toList) ∧
   (trimmed entry.2 "tool_use_id").isSome=true

theorem Valid.sane (h:Valid (blocksOf messages)) : Sane messages:=by
 refine ⟨h.use,fun entry hmem hkind=>?_⟩
 obtain ⟨before,after,hsplit⟩:=List.append_of_mem hmem
 obtain ⟨hrole,hid,-⟩:=h.result before entry after hsplit hkind
 exact ⟨hrole,hid⟩

theorem Sane.tail {first:Message} (h:Sane (first::messages)) : Sane messages :=
 ⟨fun entry hmem=>h.use entry (List.mem_append_right _ hmem),
  fun entry hmem=>h.result entry (List.mem_append_right _ hmem)⟩

theorem sandRole_assistant (h:normalRole message = "assistant".toList) : sandRole message=roleAssistant:=by
 unfold sandRole
 rw [h]
 decide

theorem Sane.callBlocks (h:Sane messages) (hmessage:message∈messages) : callBlocks message =
      (messageBlocks message).filter fun block=>decide (blockKind block=.toolUse):=by
 apply List.filter_congr
 intro block hblock
 unfold isCall
 by_cases hkind:blockKind block=.toolUse
 · obtain ⟨hrole,hid,-⟩:=h.use (message,block) (mem_blocksOf.mpr ⟨hmessage,hblock⟩) hkind
   obtain ⟨id,hstr,hne⟩:=str_of_trimmed hid
   rw [hstr,sandRole_assistant hrole]
   simp [hkind,hne]
 · simp [hkind]

theorem Sane.resultBlocks (h:Sane messages) (hmessage:message∈messages)
  : resultBlocks message = (messageBlocks message).filter fun block=>decide (blockKind block=.toolResult):=by
 apply List.filter_congr
 intro block hblock
 unfold isResult
 by_cases hkind:blockKind block=.toolResult
 · obtain ⟨-,hid⟩:=h.result (message,block) (mem_blocksOf.mpr ⟨hmessage,hblock⟩) hkind
   obtain ⟨id,hstr,hne⟩:=str_of_trimmed hid
   rw [hstr]
   simp [hkind,hne]
 · simp [hkind]

theorem Sane.apart (h:Sane messages) (hmessage:message∈messages) :
  SandRequestSoundness.resultBlocks message=[] ∨ SandRequestSoundness.callBlocks message=[]:=by
 rw [h.callBlocks hmessage,h.resultBlocks hmessage]
 by_cases hrole:normalRole message = "assistant".toList
 · left
   rw [List.filter_eq_nil_iff]
   intro block hblock hkind
   obtain ⟨huser,-⟩:=h.result (message,block) (mem_blocksOf.mpr ⟨hmessage,hblock⟩) (of_decide_eq_true hkind)
   change normalRole message=_ ∨ normalRole message=_ at huser
   rw [hrole] at huser
   revert huser
   decide
 · right
   rw [List.filter_eq_nil_iff]
   intro block hblock hkind
   exact hrole (h.use (message,block) (mem_blocksOf.mpr ⟨hmessage,hblock⟩) (of_decide_eq_true hkind)).1

theorem ofKind_messages (kind:BlockKind) (first:Message) (messages:List Message) :
  ofKind kind (blocksOf (first::messages)) =
   ((messageBlocks first).filter fun block=>decide (blockKind block=kind)).map (first,·) ++
    ofKind kind (blocksOf messages):=by
 unfold ofKind blocksOf
 rw [List.flatMap_cons,List.filter_append,List.filter_map]
 rfl

theorem Sane.calls (h:Sane messages) :
  (messages.flatMap (convertMessage env mode names)).flatMap SandInferenceMessage.toolCalls =
   (ofKind .toolUse (blocksOf messages)).map fun use=>callEntry use.2:=by
 induction messages with
 | nil=>rfl
 | cons first messages ih=>
  have hfirst:first∈first::messages:=List.mem_cons_self
  rw [List.flatMap_cons,List.flatMap_append,ih h.tail,convert_calls (h.apart hfirst),
   h.callBlocks hfirst,ofKind_messages,List.map_append,List.map_map]
  rfl

theorem Sane.results (h:Sane messages) :
  (messages.flatMap (convertMessage env mode names)).flatMap toolParts =
   (ofKind .toolResult (blocksOf messages)).map fun result=>resultEntry names result.2:=by
 induction messages with
 | nil=>rfl
 | cons first messages ih=>
  have hfirst:first∈first::messages:=List.mem_cons_self
  rw [List.flatMap_cons,List.flatMap_append,ih h.tail,convert_results,h.resultBlocks hfirst,
   ofKind_messages,List.map_append,List.map_map]
  rfl

def calls (messages:List SandInferenceMessage) : List JsonValue :=
 (messages.filter fun message=>message.role==roleAssistant).flatMap
  SandInferenceMessage.toolCalls

/-- Every part of a tool answers one call in front of it, the tools of the request are there once
and in their order, and they stand in messages of their roles. -/
structure Faithful (request:MessagesRequest) (output:List SandInferenceMessage) : Prop where
 nonempty : output≠[]
 answers : ∀ before message after,output=before++message::after →
  ∀ part∈toolParts message,∃ entry,
   ((calls before).filter fun entry=>str entry "toolCallId" == str part "toolCallId") =
    [entry] ∧ str entry "toolName" = str part "toolName"
 calls : output.flatMap SandInferenceMessage.toolCalls =
  (ofKind .toolUse (blocksOf request.messages)).map fun use=>callEntry use.2
 results : output.flatMap toolParts=(ofKind .toolResult (blocksOf request.messages)).map
  fun result=>resultEntry (assistantToolNames request) result.2
 placed : ∀ message∈output,Placed message

/-- The result names its use as the use names itself, or leaves the name to a use whose message
does not pad its role. -/
def Linked (use result:Message×JsonValue) : Prop :=
 str use.2 "id" = str result.2 "tool_use_id" ∧
  match str result.2 "name" with
  | some name=>str use.2 "name" = some name
  | none=>eqIgnoreAsciiCase use.1.role "assistant" = true ∨
    str use.2 "name" = some "unknown_tool"

structure Convertible (env:SandRequestEnv) (request:MessagesRequest) : Prop where
 carried : ∃ message∈request.messages,∃ block∈messageBlocks message,carries env false (sandRole message) block=true
 linked : ∀ use∈ofKind .toolUse (blocksOf request.messages),
  ∀ result∈ofKind .toolResult (blocksOf request.messages),
   trimmed use.2 "id" = trimmed result.2 "tool_use_id" → Linked use result

theorem calls_eq {messages:List SandInferenceMessage} (h:∀ message∈messages,Placed message) :
  calls messages=messages.flatMap SandInferenceMessage.toolCalls:=by
 unfold calls
 induction messages with
 | nil=>rfl
 | cons first messages ih=>
  have hrest:=ih fun message hmem=>h message (List.mem_cons_of_mem _ hmem)
  rw [List.filter_cons,List.flatMap_cons]
  cases hrole:first.role==roleAssistant with
  | true=>rw [if_pos rfl,List.flatMap_cons,hrest]
  | false=>
   have hnone:first.toolCalls=[]:=by
    by_contra hsome
    rw [(h first List.mem_cons_self).2 hsome] at hrole
    cases hrole
   rw [if_neg Bool.false_ne_true,hrest,hnone]
   rfl

theorem output_placed (h:converted∈messages.flatMap (convertMessage env mode names)) : Placed converted:=by
 obtain ⟨message,-,hconverted⟩:=List.mem_flatMap.mp h
 exact convert_placed hconverted

theorem callEntry_id (block:JsonValue) : str (callEntry block) "toolCallId" = some ((str block "id").getD "") := rfl

theorem callEntry_name (block:JsonValue) : str (callEntry block) "toolName" = some ((str block "name").getD "") := rfl

theorem resultEntry_id (block:JsonValue) :
  str (resultEntry names block) "toolCallId" = some ((str block "tool_use_id").getD "") := rfl

theorem resultEntry_name (block:JsonValue) :
  str (resultEntry names block) "toolName" =
   some (((str block "name").or (names.lookup ((str block "tool_use_id").getD ""))).getD "unknown_tool") := rfl

theorem linked_of_answered (hvalid:Valid (blocksOf request.messages))
  {output:List SandInferenceMessage} (h:Faithful request output)
  {use result:Message×JsonValue} (huse:use∈ofKind .toolUse (blocksOf request.messages))
  (hresult:result∈ofKind .toolResult (blocksOf request.messages))
  (hsame:trimmed use.2 "id" = trimmed result.2 "tool_use_id") : Linked use result:=by
 obtain ⟨hmem,hkind⟩:=mem_ofKind.mp huse
 obtain ⟨hresultMem,hresultKind⟩:=mem_ofKind.mp hresult
 obtain ⟨name,hname,-⟩:=str_of_trimmed (hvalid.use use hmem hkind).2.2
 obtain ⟨resultId,hresultId,-⟩ :=
  str_of_trimmed (hvalid.sane.result result hresultMem hresultKind).2
 have hpart:resultEntry (assistantToolNames request) result.2∈output.flatMap toolParts:=by
  rw [h.results]
  exact List.mem_map.mpr ⟨result,hresult,rfl⟩
 obtain ⟨message,hmessage,hpart⟩:=List.mem_flatMap.mp hpart
 obtain ⟨before,after,hsplit⟩:=List.append_of_mem hmessage
 obtain ⟨entry,hfilter,hcalled⟩:=h.answers before message after hsplit _ hpart
 have hentry:entry∈(calls before).filter fun entry=>str entry "toolCallId" ==
   str (resultEntry (assistantToolNames request) result.2) "toolCallId" := by
  rw [hfilter]
  exact List.mem_singleton_self _
 obtain ⟨hentry,hid⟩:=List.mem_filter.mp hentry
 have hbefore:∀ message∈before,Placed message:=fun message hmem=>
  h.placed message (by rw [hsplit]; exact List.mem_append_left _ hmem)
 rw [calls_eq hbefore] at hentry
 have hall:entry∈output.flatMap SandInferenceMessage.toolCalls:=by
  rw [hsplit,List.flatMap_append]
  exact List.mem_append_left _ hentry
 rw [h.calls] at hall
 obtain ⟨other,hother,rfl⟩:=List.mem_map.mp hall
 obtain ⟨hotherMem,hotherKind⟩:=mem_ofKind.mp hother
 obtain ⟨otherId,hotherId,-⟩:=str_of_trimmed (hvalid.use other hotherMem hotherKind).2.1
 rw [callEntry_id,resultEntry_id,hotherId,hresultId,beq_iff_eq] at hid
 have hids:str other.2 "id" = str result.2 "tool_use_id" := by
  rw [hotherId,hresultId]
  exact hid
 obtain rfl:=use_unique hvalid hother huse ((trimmed_congr hids).trans hsame.symm)
 refine ⟨hids,?_⟩
 rw [callEntry_name,resultEntry_name,hname] at hcalled
 have hcalled:=Option.some.inj hcalled
 cases hactual:str result.2 "name" with
 | some actual=>
  rw [hactual] at hcalled
  exact hname.trans (congrArg some hcalled)
 | none=>
  rw [hactual,Option.none_or,← hids,hotherId] at hcalled
  dsimp only [Option.getD_some] at hcalled
  rw [lookup_toolNames hvalid huse hotherId] at hcalled
  cases hrole:eqIgnoreAsciiCase other.1.role "assistant" with
  | true=>exact Or.inl rfl
  | false=>
   rw [hrole,if_neg Bool.false_ne_true] at hcalled
   exact Or.inr (hname.trans (congrArg some hcalled))

theorem filter_singleton {α:Type*} {items:List α} {item:α} {keep:α → Bool} (hmem:item∈items) (hnodup:items.Nodup)
  (hkeep:∀ other∈items,keep other=true ↔ other=item) : items.filter keep=[item]:=by
 obtain ⟨front,back,rfl⟩:=List.append_of_mem hmem
 have hapart:=List.nodup_append.mp hnodup
 have hfront:front.filter keep=[]:=by
  rw [List.filter_eq_nil_iff]
  intro other hother htrue
  have hsame:=(hkeep other (List.mem_append_left _ hother)).mp htrue
  exact hapart.2.2 other hother item List.mem_cons_self hsame
 have hback:back.filter keep=[]:=by
  rw [List.filter_eq_nil_iff]
  intro other hother htrue
  have hsame:=(hkeep other (List.mem_append_right _ (List.mem_cons_of_mem _ hother))).mp htrue
  exact (List.nodup_cons.mp hapart.2.1).1 (hsame ▸ hother)
 have hitem:keep item=true:=(hkeep item hmem).mpr rfl
 rw [List.filter_append,hfront,List.filter_cons,if_pos hitem,hback]
 rfl

theorem flatMap_split {α β:Type*} {f:α → List β} {items:List α} {before after:List β}
  {b:β} (h:items.flatMap f=before++b::after) :
  ∃ front item back left right,items=front++item::back ∧ f item=left++b::right ∧ before=front.flatMap f++left:=by
 induction items generalizing before with
 | nil=>simp at h
 | cons first items ih=>
  rw [List.flatMap_cons] at h
  rcases List.append_eq_append_iff.mp h with ⟨middle,hbefore,hrest⟩ | ⟨middle,hfirst,hrest⟩
  · obtain ⟨front,item,back,left,right,hitems,hitem,hmiddle⟩:=ih hrest
    refine ⟨first::front,item,back,left,right,by rw [hitems]; rfl,hitem,?_⟩
    rw [hbefore,hmiddle,List.flatMap_cons,List.append_assoc]
  · cases middle with
    | nil=>
     have hrest:items.flatMap f=[]++b::after:=hrest.symm
     obtain ⟨front,item,back,left,right,hitems,hitem,hmiddle⟩:=ih hrest
     refine ⟨first::front,item,back,left,right,by rw [hitems]; rfl,hitem,?_⟩
     rw [List.append_nil] at hfirst
     rw [List.flatMap_cons,List.append_assoc,← hmiddle,List.append_nil,hfirst]
    | cons head middle=>
     obtain ⟨rfl,-⟩:=List.cons.inj hrest
     exact ⟨[],first,items,before,middle,rfl,hfirst,rfl⟩

theorem answered_of_linked (hvalid:Valid (blocksOf request.messages))
  (h:Convertible env request) {before after:List SandInferenceMessage} {message:SandInferenceMessage}
  (hsplit:messagesFromAnthropic env request false=before++message::after)
  {part:JsonValue} (hpart:part∈toolParts message) : ∃ entry,((calls before).filter fun entry=>
   str entry "toolCallId" == str part "toolCallId")=[entry] ∧ str entry "toolName" = str part "toolName" := by
 obtain ⟨front,item,back,left,right,hitems,hitem,hbefore⟩:=flatMap_split hsplit
 obtain rfl:=convert_first hitem fun hnil=>by
  rw [hnil] at hpart
  cases hpart
 have hsane:=hvalid.sane
 have hitemMem:item∈request.messages:=by
  rw [hitems]
  simp
 -- the part is the entry of a result of this message
 have hpartMem:part∈(convertMessage env false (assistantToolNames request) item).flatMap toolParts:=by
  rw [hitem]
  exact List.mem_append_left _ hpart
 rw [convert_results,hsane.resultBlocks hitemMem] at hpartMem
 obtain ⟨block,hblock,rfl⟩:=List.mem_map.mp hpartMem
 obtain ⟨hblock,hkind⟩:=List.mem_filter.mp hblock
 have hkind:blockKind block=.toolResult:=of_decide_eq_true hkind
 have hresult:(item,block)∈ofKind .toolResult (blocksOf request.messages) :=
  mem_ofKind.mpr ⟨mem_blocksOf.mpr ⟨hitemMem,hblock⟩,hkind⟩
 -- its use stands in an earlier message
 obtain ⟨some',more,hsome⟩:=List.append_of_mem hblock
 have hblocks:blocksOf request.messages=(blocksOf front++some'.map (item,·)) ++
   (item,block)::(more.map (item,·)++blocksOf back):=by
  unfold blocksOf
  rw [hitems,List.flatMap_append,List.flatMap_cons,hsome]
  simp
 obtain ⟨hrole,hid,use,huse,hsame⟩:=hvalid.result _ _ _ hblocks hkind
 obtain ⟨huseMem,huseKind⟩:=mem_ofKind.mp huse
 have hearlier:use∈blocksOf front:=by
  rcases List.mem_append.mp huseMem with hfront | hhere
  · exact hfront
  · obtain ⟨other,hother,rfl⟩:=List.mem_map.mp hhere
    have hassistant:=(hvalid.use (item,other) (mem_blocksOf.mpr ⟨hitemMem,by
     rw [hsome]
     exact List.mem_append_left _ hother⟩) huseKind).1
    change normalRole item=_ ∨ normalRole item=_ at hrole
    rw [hassistant] at hrole
    rcases hrole with hrole | hrole <;> exact absurd hrole (by decide)
 have hfrontMem {entry:Message×JsonValue} (hentry:entry∈blocksOf front) : entry∈blocksOf request.messages:=by
  rw [hblocks,List.append_assoc]
  exact List.mem_append_left _ hentry
 have huseAll:use∈ofKind .toolUse (blocksOf request.messages) :=
  mem_ofKind.mpr ⟨hfrontMem hearlier,huseKind⟩
 obtain ⟨hids,hnames⟩:=h.linked use huseAll (item,block) hresult hsame
 obtain ⟨id,hstr,-⟩:=str_of_trimmed (hvalid.use use (hfrontMem hearlier) huseKind).2.1
 obtain ⟨name,hname,-⟩:=str_of_trimmed (hvalid.use use (hfrontMem hearlier) huseKind).2.2
 have hresultId:str block "tool_use_id" = some id:=hids.symm.trans hstr
 have hfrontSane:Sane front :=
  ⟨fun entry hentry=>hsane.use entry (hfrontMem hentry),
   fun entry hentry=>hsane.result entry (hfrontMem hentry)⟩
 have hcalls:calls before=(ofKind .toolUse (blocksOf front)).map fun use=>callEntry use.2 :=
   by
  rw [hbefore,List.append_nil,calls_eq fun message hmem=>output_placed hmem]
  exact hfrontSane.calls
 refine ⟨callEntry use.2,?_,?_⟩
 · rw [hcalls,List.filter_map]
   have hnodup:(ofKind .toolUse (blocksOf front)).Nodup:=by
    have hall:=List.Nodup.of_map _ hvalid.unique
    refine hall.sublist ?_
    unfold ofKind
    rw [hblocks,List.append_assoc,List.filter_append]
    exact List.sublist_append_left _ _
   have hkeep:∀ other∈ofKind .toolUse (blocksOf front),
     (str (callEntry other.2) "toolCallId" ==
      str (resultEntry (assistantToolNames request) block) "toolCallId")=true ↔ other=use:=by
    intro other hother
    obtain ⟨hotherMem,hotherKind⟩:=mem_ofKind.mp hother
    obtain ⟨otherId,hotherId,-⟩ :=
     str_of_trimmed (hvalid.use other (hfrontMem hotherMem) hotherKind).2.1
    rw [callEntry_id,resultEntry_id,hotherId,hresultId,beq_iff_eq]
    constructor
    · intro hequal
      have hequal:otherId=id:=Option.some.inj hequal
      exact use_unique hvalid (mem_ofKind.mpr ⟨hfrontMem hotherMem,hotherKind⟩) huseAll
       (trimmed_congr (hotherId.trans ((congrArg some hequal).trans hstr.symm)))
    · rintro rfl
      rw [Option.some.inj (hotherId.symm.trans hstr)]
   exact congrArg (List.map _) (filter_singleton (mem_ofKind.mpr ⟨hearlier,huseKind⟩) hnodup hkeep)
 · rw [callEntry_name,resultEntry_name,hname,hresultId]
   dsimp only [Option.getD_some]
   rw [lookup_toolNames hvalid huseAll hstr]
   cases hactual:str block "name" with
   | some actual=>
    rw [hactual] at hnames
    exact hname.symm.trans hnames
   | none=>
    rw [hactual] at hnames
    cases hpadded:eqIgnoreAsciiCase use.1.role "assistant" with
    | true=>rw [if_pos rfl,Option.none_or,hname]; rfl
    | false=>
     rcases hnames with hexact | hunknown
     · exact absurd (hexact.symm.trans hpadded) (by decide)
     · exact hname.symm.trans hunknown

/-- An accepted request is converted faithfully exactly if one of its blocks leaves something and
each result names its use in the very spelling of the use. -/
theorem faithful_iff (env:SandRequestEnv) {request:MessagesRequest} (h:validateAnthropicRequest request=.ok ()) :
    Faithful request (messagesFromAnthropic env request false) ↔ Convertible env request:=by
  have hvalid:=valid_of_accepted h
  constructor
  · intro hfaithful
    refine ⟨?_,fun use huse result hresult hsame=>
      linked_of_answered hvalid hfaithful huse hresult hsame⟩
    obtain ⟨converted,hconverted⟩:=List.exists_mem_of_ne_nil _ hfaithful.nonempty
    obtain ⟨message,hmessage,hmem⟩:=List.mem_flatMap.mp hconverted
    exact ⟨message,hmessage,(convert_nonempty message).mp (List.ne_nil_of_mem hmem)⟩
  · intro hconvertible
    refine ⟨?_,fun before message after hsplit part hpart=>
      answered_of_linked hvalid hconvertible hsplit hpart,hvalid.sane.calls,
      hvalid.sane.results,fun message hmem=>output_placed hmem⟩
    obtain ⟨message,hmessage,hcarried⟩:=hconvertible.carried
    obtain ⟨converted,hconverted⟩:=List.exists_mem_of_ne_nil _ ((convert_nonempty message).mpr hcarried)
    exact List.ne_nil_of_mem (List.mem_flatMap.mpr ⟨message,hmessage,hconverted⟩)

def bareEnv : SandRequestEnv where
 standard _ := none
 standardNoPad _ := none
 urlSafe _ := none
 urlSafeNoPad _ := none
 encodeBase64 _ := []
 toJson _ := none

def useMessage (id:String) : Message :=
 ⟨"assistant",.array [.object [("id",.string id),("input",.object []),
  ("name",.string "Bash"),("type",.string "tool_use")]]⟩

def resultMessage (id:String) : Message :=
 ⟨"user",.array [.object [("content",.string "done"),("tool_use_id",.string id),("type",.string "tool_result")]]⟩

def toolRequest (useId resultId:String) : MessagesRequest :=
 ⟨none,[useMessage useId,resultMessage resultId],.object []⟩

theorem toolRequest_uses (useId resultId:String) :
  ∃ use,ofKind .toolUse (blocksOf (toolRequest useId resultId).messages)=[use] ∧
   use.1=useMessage useId ∧ str use.2 "id" = some useId ∧ str use.2 "name" = some "Bash" :=
 ⟨_,rfl,rfl,rfl,rfl⟩

theorem toolRequest_results (useId resultId:String) :
  ∃ result,ofKind .toolResult (blocksOf (toolRequest useId resultId).messages)=[result] ∧
   str result.2 "tool_use_id" = some resultId ∧ str result.2 "name" = none :=
 ⟨_,rfl,rfl,rfl⟩

theorem faithful_iff_plain :
    Faithful (toolRequest "toolu_1" "toolu_1")
      (messagesFromAnthropic bareEnv (toolRequest "toolu_1" "toolu_1") false):=by
  have haccepted:validateAnthropicRequest (toolRequest "toolu_1" "toolu_1")=.ok ():=rfl
  refine (faithful_iff bareEnv haccepted).mpr ⟨?_,?_⟩
  · exact ⟨useMessage "toolu_1",List.mem_cons_self,_,List.mem_cons_self,by decide +kernel⟩
  · intro use huse result hresult _
    obtain ⟨only,honly,hmessage,hid,-⟩:=toolRequest_uses "toolu_1" "toolu_1"
    obtain ⟨answer,hanswer,hanswerId,hname⟩:=toolRequest_results "toolu_1" "toolu_1"
    rw [honly] at huse
    rw [hanswer] at hresult
    obtain rfl:=List.mem_singleton.mp huse
    obtain rfl:=List.mem_singleton.mp hresult
    refine ⟨hid.trans hanswerId.symm,?_⟩
    rw [hname,hmessage]
    exact Or.inl (by decide +kernel)

/-- The ids agree behind `trim`, and the part of the result answers no call. -/
theorem padded_unanswered :
    validateAnthropicRequest (toolRequest "toolu_1 " "toolu_1")=.ok () ∧
      ¬Faithful (toolRequest "toolu_1 " "toolu_1")
        (messagesFromAnthropic bareEnv (toolRequest "toolu_1 " "toolu_1") false):=by
  have haccepted:validateAnthropicRequest (toolRequest "toolu_1 " "toolu_1")=.ok ():=rfl
  refine ⟨haccepted,fun hfaithful=>?_⟩
  obtain ⟨use,huse,-,hid,-⟩:=toolRequest_uses "toolu_1 " "toolu_1"
  obtain ⟨result,hresult,hresultId,-⟩:=toolRequest_results "toolu_1 " "toolu_1"
  have hsame:trimmed use.2 "id" = trimmed result.2 "tool_use_id" := by
    unfold trimmed
    rw [hid,hresultId]
    decide +kernel
  have hlinked:=linked_of_answered (valid_of_accepted haccepted) hfaithful
    (by rw [huse]; exact List.mem_singleton_self _)
    (by rw [hresult]; exact List.mem_singleton_self _) hsame
  exact absurd (hid.symm.trans (hlinked.1.trans hresultId)) (by decide)

end CursorProxy.SandRequestSoundness
