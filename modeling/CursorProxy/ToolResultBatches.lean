import CursorProxy.PendingRuns

namespace CursorProxy.ToolResultBatches
open PendingExecs PendingRuns Traces XmlElements

local instance : LawfulBEq Text := inferInstance

structure ToolResult where
 content : Text
 isError : Bool
deriving DecidableEq

/-- The result message of a kind is its error or its success. -/
inductive ExecPayload where
 | result (isError:Bool) (content:Text)
 | shellStart
 | shellOutput (isError:Bool) (content:Text)
 | shellExit (isError:Bool)
deriving DecidableEq

inductive Frame where
 | message (exec:PendingCursorExec) (payload:ExecPayload)
 | close (id:UInt32)
deriving DecidableEq

def isContinuation (exec:PendingCursorExec) : Bool :=
 match exec.kind with
 | .piEditContinuation _=>true
 | _=>false

section
variable (streaming:PendingCursorExec → Bool)

def payloads (pending:PendingCursorExec) (result:ToolResult) : List ExecPayload :=
 match pending.kind with
 | .piEditContinuation _ | .clientOnly=>[]
 | .shell=>
  if streaming pending then
   [.shellStart] ++
    (if result.content.isEmpty then [] else [.shellOutput result.isError result.content]) ++
     [.shellExit result.isError]
  else [.result result.isError result.content]
 | _=>[.result result.isError result.content]

def resultGroup (pending:PendingCursorExec) (result:ToolResult) : List Frame :=
 (payloads streaming pending result).map (.message pending)

def encodeToolResultFrames (pending:PendingCursorExec) (result:ToolResult) : List Frame :=
 if isClientOnly pending then []
 else resultGroup streaming pending result++[.close pending.id]

def supply (expected:List Text) : List Text → List Text → Except Text (List Text)
 | supplied,[]=>.ok supplied
 | supplied,id::ids=>
  if id ∉ expected then .error ("Cursor tool result id ".toList++id ++ " is not pending".toList)
  else if id∈supplied then
   .error ("Cursor tool result id ".toList++id ++ " was supplied more than once".toList)
  else supply expected (id::supplied) ids

def validateToolResultBatch (pending:List PendingCursorExec) (toolResults:List (Text×ToolResult)) : Except Text Unit :=
 let expected:=pending.map PendingCursorExec.toolUseId
 if pending.isEmpty then .error "Cursor live run has no pending native tools".toList
 else match supply expected [] (toolResults.map Prod.fst) with
  | .error error=>.error error
  | .ok supplied=>
   let missing:=expected.filter fun id=>id ∉ supplied
   if missing.isEmpty then .ok ()
   else .error ("Cursor live run is still awaiting tool results for: ".toList ++ ", ".toList.intercalate missing)

def resultById (toolResults:List (Text×ToolResult)) (exec:PendingCursorExec) : Option ToolResult :=
 toolResults.reverse.lookup exec.toolUseId

def resultFor (pending:List PendingCursorExec) (toolResults:List (Text×ToolResult))
  (current:PendingCursorExec) : Option ToolResult :=
 match current.kind with
 | .piEdit _ _=>
  (((pending.filter fun exec=>exec.kind=.piEditContinuation current.id).filterMap
   (resultById toolResults)).find? ToolResult.isError).or (resultById toolResults current)
 | _=>resultById toolResults current

def encodeAll (pending:List PendingCursorExec) (toolResults:List (Text×ToolResult)) :
  List PendingCursorExec → Except Text (List Frame)
 | []=>.ok []
 | current::rest=>
  match resultFor pending toolResults current with
  | none=>.error ("Cursor tool result id ".toList++current.toolUseId ++
    " was validated but no payload was found".toList)
  | some result=>(encodeAll pending toolResults rest).map
    (encodeToolResultFrames streaming current result ++ ·)

def encodeToolResultBatch (pending:List PendingCursorExec)
  (toolResults:List (Text×ToolResult)) : Except Text (List Frame) :=
 match validateToolResultBatch pending toolResults with
 | .error error=>.error error
 | .ok ()=>encodeAll streaming pending toolResults pending

end

/-- The parts of a modern edit behind the first are continuations of it. -/
def expandModernPiEdit (native:PendingCursorExec) (textEditor:Bool) : List PendingCursorExec :=
 match textEditor,native.kind with
 | true,.piEdit _ edits=>
  if edits.length ≤ 1 then [native]
  else native::(List.range (edits.length-1)).map fun index=>
   { id := .ofNat (min (native.id.toNat+(index+1)) (2 ^ 32-1))
     execId := some (((native.execId.getD "pi_edit".toList).map fun char=>
      if char = '\n' ∨ char = '\r' then '_' else char) ++ "__part_".toList ++
       Nat.toDigits 10 (index+2))
     toolUseId := native.toolUseId ++ "__part_".toList++Nat.toDigits 10 (index+2)
     kind := .piEditContinuation native.id }
 | _,_=>[native]

variable {streaming:PendingCursorExec → Bool} {pending:List PendingCursorExec}
 {toolResults:List (Text×ToolResult)} {frames:List Frame}

/-- Cursor itself waits for the result. -/
def upstream (exec:PendingCursorExec) : Bool := !isClientOnly exec&&!isContinuation exec

/-- An exec or one of its continuations has an error for its result. -/
def Failed (pending:List PendingCursorExec) (toolResults:List (Text×ToolResult)) (exec:PendingCursorExec) : Prop :=
 ∃ part∈pending,(part=exec ∨ part.kind=.piEditContinuation exec.id) ∧
  ∃ result,(part.toolUseId,result)∈toolResults ∧ result.isError=true

/-- One group and one close for each upstream exec, for its own result or, of an edit, for one
that is an error exactly if a part failed. -/
structure Encoded (streaming:PendingCursorExec → Bool) (pending:List PendingCursorExec)
  (toolResults:List (Text×ToolResult)) (frames:List Frame) : Prop where
 ids : (toolResults.map Prod.fst).Perm (pending.map PendingCursorExec.toolUseId)
 groups : ∃ told:PendingCursorExec → ToolResult,
  frames=(pending.filter upstream).flatMap (fun exec=>resultGroup streaming exec (told exec)++[.close exec.id]) ∧
  ∀ exec∈pending,match exec.kind with
   | .piEdit _ _=>(told exec).isError=true ↔ Failed pending toolResults exec
   | _=>(exec.toolUseId,told exec)∈toolResults

theorem supply_ok {expected:List Text} : ∀ {ids supplied after:List Text},
  supply expected supplied ids=.ok after → supplied.Nodup →
   after=ids.reverse++supplied ∧ after.Nodup ∧ ∀ id∈ids,id∈expected:=by
 intro ids
 induction ids with
 | nil=>
  intro supplied after h hnodup
  obtain rfl:=Except.ok.inj h
  exact ⟨rfl,hnodup,nofun⟩
 | cons id ids ih=>
  intro supplied after h hnodup
  rw [supply] at h
  split_ifs at h with hexpected hagain
  obtain ⟨hafter,hdistinct,hids⟩:=ih h (List.nodup_cons.mpr ⟨hagain,hnodup⟩)
  refine ⟨by simpa using hafter,hdistinct,?_⟩
  rw [List.forall_mem_cons]
  exact ⟨hexpected,hids⟩

theorem validate_ok (h:validateToolResultBatch pending toolResults=.ok ())
  (hnodup:(pending.map PendingCursorExec.toolUseId).Nodup) :
  (toolResults.map Prod.fst).Nodup ∧ (toolResults.map Prod.fst).Perm (pending.map PendingCursorExec.toolUseId):=by
 unfold validateToolResultBatch at h
 dsimp only at h
 split_ifs at h
 cases hsupply:supply (pending.map PendingCursorExec.toolUseId) [] (toolResults.map Prod.fst)
  with
 | error error=>
  rw [hsupply] at h
  cases h
 | ok supplied=>
  rw [hsupply] at h
  dsimp only at h
  split_ifs at h with hmissing
  obtain ⟨rfl,hdistinct,hids⟩:=supply_ok hsupply List.nodup_nil
  rw [List.append_nil] at hdistinct hmissing
  have hresults:=List.nodup_reverse.mp hdistinct
  refine ⟨hresults,(List.perm_ext_iff_of_nodup hresults hnodup).mpr fun id=>⟨hids id,?_⟩⟩
  intro hid
  by_contra habsent
  rw [List.isEmpty_iff,List.filter_eq_nil_iff] at hmissing
  exact hmissing id hid (by simpa using habsent)

theorem resultById_some (hkeys:(toolResults.map Prod.fst).Nodup) {exec:PendingCursorExec} {result:ToolResult} :
  resultById toolResults exec=some result ↔ (exec.toolUseId,result)∈toolResults:=by
 have hlookup:∀ {rows:List (Text×ToolResult)},(rows.map Prod.fst).Nodup →
   (rows.lookup exec.toolUseId=some result ↔ (exec.toolUseId,result)∈rows):=by
  intro rows hrows
  induction rows with
  | nil=>simp
  | cons row rows ih=>
   obtain ⟨id,other⟩:=row
   rw [List.map_cons,List.nodup_cons] at hrows
   rw [List.lookup_cons,List.mem_cons,Prod.mk.injEq]
   by_cases hid:exec.toolUseId=id
   · have habsent:(exec.toolUseId,result) ∉ rows:=fun hmem=>
      hrows.1 (hid ▸ List.mem_map.mpr ⟨_,hmem,rfl⟩)
     simp [hid,hid ▸ habsent,eq_comm]
   · have hbeq:(exec.toolUseId==id)=false:=beq_eq_false_iff_ne.mpr hid
     rw [hbeq]
     simp [hid,ih hrows.2]
 rw [resultById,hlookup (by rwa [List.map_reverse,List.nodup_reverse]),List.mem_reverse]

/-- An error of a continuation stands in for the result of an edit. -/
theorem told_edit (hkeys:(toolResults.map Prod.fst).Nodup) {exec:PendingCursorExec}
  (hexec:exec∈pending) {path:Text} {edits:List PiEditReplacement}
  (hkind:exec.kind=.piEdit path edits) {own:ToolResult} (hown:resultById toolResults exec=some own) :
  ∃ result,resultFor pending toolResults exec=some result ∧
   (result.isError=true ↔ Failed pending toolResults exec):=by
 rw [resultFor,hkind]
 dsimp only
 cases hfound:((pending.filter fun part=>part.kind=.piEditContinuation exec.id).filterMap
  (resultById toolResults)).find? ToolResult.isError with
 | some result=>
  obtain ⟨part,hpart,hresult⟩:=List.mem_filterMap.mp (List.mem_of_find?_eq_some hfound)
  obtain ⟨hpart,hcontinues⟩:=List.mem_filter.mp hpart
  exact ⟨result,rfl,iff_of_true (List.find?_some hfound) ⟨part,hpart,
   Or.inr (of_decide_eq_true hcontinues),result,(resultById_some hkeys).mp hresult,List.find?_some hfound⟩⟩
 | none=>
  refine ⟨own,hown,fun herror=>⟨exec,hexec,Or.inl rfl,own,(resultById_some hkeys).mp hown,
   herror⟩,?_⟩
  rintro ⟨part,hpart,rfl | hcontinues,result,hresult,herror⟩
  · have hsame:=hown.symm.trans ((resultById_some hkeys).mpr hresult)
    rwa [Option.some.inj hsame]
  · have hcontinuation : part∈pending.filter fun part=>part.kind=.piEditContinuation exec.id :=
     List.mem_filter.mpr ⟨hpart,decide_eq_true hcontinues⟩
    have hmem:=List.mem_filterMap.mpr ⟨part,hcontinuation,(resultById_some hkeys).mpr hresult⟩
    exact absurd herror (List.find?_eq_none.mp hfound result hmem)

/-- Every exec of a batch that is complete has a result. -/
theorem told_all (hkeys:(toolResults.map Prod.fst).Nodup)
  (hids:(toolResults.map Prod.fst).Perm (pending.map PendingCursorExec.toolUseId)) :
  ∃ told:PendingCursorExec → ToolResult,∀ exec∈pending,
   resultFor pending toolResults exec=some (told exec) ∧ match exec.kind with
    | .piEdit _ _=>(told exec).isError=true ↔ Failed pending toolResults exec
    | _=>(exec.toolUseId,told exec)∈toolResults:=by
 refine ⟨fun exec=>(resultFor pending toolResults exec).getD ⟨[],false⟩,fun exec hexec=>?_⟩
 obtain ⟨⟨id,own⟩,hmem,hid⟩:=List.mem_map.mp (hids.mem_iff.mpr (List.mem_map_of_mem hexec))
 obtain rfl : id=exec.toolUseId:=hid
 have hown:=(resultById_some hkeys).mpr hmem
 cases hkind:exec.kind with
 | piEdit path edits=>
  obtain ⟨result,hresult,hfailed⟩:=told_edit hkeys hexec hkind hown
  simpa [hresult] using hfailed
 | _=>
  have hresult:resultFor pending toolResults exec=some own:=by
   rw [resultFor,hkind]
   exact hown
  simpa [hresult] using hmem

theorem encodeAll_ok {told:PendingCursorExec → ToolResult} : ∀ {execs:List PendingCursorExec},
  (∀ exec∈execs,resultFor pending toolResults exec=some (told exec)) →
   encodeAll streaming pending toolResults execs =
    .ok (execs.flatMap fun exec=>encodeToolResultFrames streaming exec (told exec)):=by
 intro execs
 induction execs with
 | nil=>exact fun _=>rfl
 | cons exec execs ih=>
  intro h
  rw [List.forall_mem_cons] at h
  rw [encodeAll,h.1,ih h.2]
  rfl

def isClose : Frame → Bool
 | .close _=>true
 | .message _ _=>false

theorem closes_group (exec:PendingCursorExec) (result:ToolResult) :
  (resultGroup streaming exec result++[Frame.close exec.id]).countP isClose=1:=by
 simp [resultGroup,List.countP_map,Function.comp_def,isClose]

/-- Each exec that is not the client's has a close. -/
theorem closes_encoded (told:PendingCursorExec → ToolResult) (execs:List PendingCursorExec) :
  (execs.flatMap fun exec=>encodeToolResultFrames streaming exec (told exec)).countP isClose =
   execs.countP (!isClientOnly ·):=by
 induction execs with
 | nil=>rfl
 | cons exec execs ih=>
  rw [List.flatMap_cons,List.countP_append,ih,encodeToolResultFrames,List.countP_cons]
  cases hclient:isClientOnly exec
  · rw [if_neg Bool.false_ne_true,closes_group]
    exact Nat.add_comm ..
  · simp

theorem closes_expected (told:PendingCursorExec → ToolResult) (execs:List PendingCursorExec) :
  ((execs.filter upstream).flatMap fun exec=>
   resultGroup streaming exec (told exec)++[.close exec.id]).countP isClose = execs.countP upstream:=by
 rw [List.countP_eq_length_filter (p := upstream)]
 generalize execs.filter upstream=execs
 induction execs with
 | nil=>rfl
 | cons exec execs ih=>
  rw [List.flatMap_cons,List.countP_append,ih,closes_group,List.length_cons,Nat.add_comm]

theorem no_continuation {execs:List PendingCursorExec} (h:execs.countP (!isClientOnly ·)=execs.countP upstream) :
  ∀ exec∈execs,isContinuation exec=false:=by
 induction execs with
 | nil=>exact nofun
 | cons exec execs ih=>
  have hle:execs.countP upstream ≤ execs.countP (!isClientOnly ·) :=
   List.countP_mono_left fun _ _ hupstream=>(Bool.and_eq_true_iff.mp hupstream).1
  rw [List.countP_cons,List.countP_cons] at h
  rw [List.forall_mem_cons]
  cases hpart:isContinuation exec with
  | true=>
   have hnative:isClientOnly exec=false:=by
    unfold isContinuation at hpart
    unfold isClientOnly
    split at hpart <;> simp_all
   simp [upstream,hpart,hnative] at h
   omega
  | false=>
   refine ⟨rfl,ih ?_⟩
   simpa [upstream,hpart] using h

/-- Where no part is a continuation, all groups are of upstream execs. -/
theorem encoded_eq (told:PendingCursorExec → ToolResult) {execs:List PendingCursorExec}
  (h:∀ exec∈execs,isContinuation exec=false) :
  (execs.flatMap fun exec=>encodeToolResultFrames streaming exec (told exec)) =
   (execs.filter upstream).flatMap fun exec=>
    resultGroup streaming exec (told exec)++[.close exec.id]:=by
 induction execs with
 | nil=>rfl
 | cons exec execs ih=>
  rw [List.forall_mem_cons] at h
  rw [List.flatMap_cons,ih h.2,List.filter_cons,encodeToolResultFrames]
  cases hclient:isClientOnly exec <;> simp [upstream,hclient,h.1]

theorem run_ids {runId:Text} {actions:List PendingAction} {run:PendingRun}
  (hrun:Trace Step (.start runId) actions run) : (run.state.awaiting.map PendingCursorExec.toolUseId).Nodup:=by
 have hkept:=run_kept hrun
 have hle:(run.state.awaiting : Multiset PendingCursorExec) ≤ run.accepted:=by
  rw [hkept.places,add_assoc,add_assoc]
  exact Multiset.le_add_right _ _
 exact Multiset.coe_nodup.mp (Multiset.nodup_of_le (Multiset.map_le_map hle) hkept.ids)

theorem encoded_iff (hnodup:(pending.map PendingCursorExec.toolUseId).Nodup) :
  (∀ frames,encodeToolResultBatch streaming pending toolResults=.ok frames →
   Encoded streaming pending toolResults frames) ↔
   (∃ error,validateToolResultBatch pending toolResults=.error error) ∨
    ∀ exec∈pending,isContinuation exec=false:=by
 cases hvalid:validateToolResultBatch pending toolResults with
 | error error=>
  refine iff_of_true (fun frames h=>?_) (Or.inl ⟨error,rfl⟩)
  rw [encodeToolResultBatch,hvalid] at h
  cases h
 | ok _=>
  obtain ⟨hkeys,hids⟩:=validate_ok hvalid hnodup
  obtain ⟨told,htold⟩:=told_all hkeys hids
  have hencode:encodeToolResultBatch streaming pending toolResults=.ok
    (pending.flatMap fun exec=>encodeToolResultFrames streaming exec (told exec)):=by
   rw [encodeToolResultBatch,hvalid]
   exact encodeAll_ok fun exec hexec=>(htold exec hexec).1
  constructor
  · intro h
    obtain ⟨other,hframes,-⟩:=(h _ hencode).groups
    have hcloses:=congrArg (List.countP isClose) hframes
    rw [closes_encoded,closes_expected] at hcloses
    exact Or.inr (no_continuation hcloses)
  · rintro (⟨error,h⟩ | hnone) frames hframes
    · cases h
    · obtain rfl:=Except.ok.inj (hencode.symm.trans hframes)
      exact ⟨hids,told,encoded_eq told hnone,fun exec hexec=>(htold exec hexec).2⟩

/-- Whatever is pending in a run, a batch is right if it is refused or has no continuation. -/
theorem batch_encoded_iff {runId:Text} {actions:List PendingAction} {run:PendingRun}
    (hrun:Trace Step (.start runId) actions run) (toolResults:List (Text×ToolResult)) :
    (∀ frames,encodeToolResultBatch streaming run.state.awaiting toolResults=.ok frames →
      Encoded streaming run.state.awaiting toolResults frames) ↔
      (∃ error,validateToolResultBatch run.state.awaiting toolResults=.error error) ∨
        ∀ exec∈run.state.awaiting,isContinuation exec=false :=
  encoded_iff (run_ids hrun)

def edit (edits:List PiEditReplacement) : PendingCursorExec :=
 ⟨700,some ['e'],['t'],.piEdit ['p'] edits⟩

def replacement : PiEditReplacement := ⟨['a'],['b']⟩

def succeeded (pending:List PendingCursorExec) : List (Text×ToolResult) :=
 pending.map fun exec=>(exec.toolUseId,⟨[],false⟩)

theorem batch_encoded_sample : ∃ run,Trace Step (.start ['r'])
    [.queue (edit [replacement]) 0 0,.exposeNative 0] run ∧
      ∀ frames,encodeToolResultBatch (fun _=>false) run.state.awaiting
        (succeeded run.state.awaiting)=.ok frames →
          Encoded (fun _=>false) run.state.awaiting (succeeded run.state.awaiting) frames :=
  ⟨_,.cons rfl (.cons rfl (.nil _)),(@batch_encoded_iff _ ['r']
    [.queue (edit [replacement]) 0 0,.exposeNative 0] _ (.cons rfl (.cons rfl (.nil _))) _).mpr
      (Or.inr (by decide +kernel))⟩

theorem continuation_closed : ∃ run,Trace Step (.start ['r'])
    ((expandModernPiEdit (edit [replacement,replacement]) true).map (.queue · 0 0) ++ [.exposeNative 0]) run ∧
      ¬ ∀ frames,encodeToolResultBatch (fun _=>false) run.state.awaiting
        (succeeded run.state.awaiting)=.ok frames →
          Encoded (fun _=>false) run.state.awaiting (succeeded run.state.awaiting) frames:=by
  refine ⟨_,.cons rfl (.cons rfl (.cons rfl (.nil _))),?_⟩
  rw [encoded_iff (by decide +kernel)]
  rintro (⟨error,h⟩ | h)
  · have hrefused:Except.isOk _=false:=congrArg Except.isOk h
    exact absurd hrefused (by decide +kernel)
  · exact absurd h (by decide +kernel)

end CursorProxy.ToolResultBatches
