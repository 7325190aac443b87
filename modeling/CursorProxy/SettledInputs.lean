import CursorProxy.ClientInputSteps

namespace CursorProxy.ClientInputs
open CursorProxy.JsonValues XmlElements FieldMaps IntegerDoubles

variable {env:AdaptEnv} {obj:Members}

theorem adaptRead_idempotent (obj:Members) : adaptRead env (adaptRead env obj)=adaptRead env obj :=
 (adaptRead_settled obj).same

theorem adaptReadFile_idempotent (obj:Members) : adaptReadFile env (adaptReadFile env obj)=adaptReadFile env obj:=by
 have hkept:∀ field,field ≠ "target_file" → field ≠ "file_path" → field ≠ "path" →
  get field (adaptReadFile env obj)=get field (adaptRead env obj):=by
  intro field htarget hfile hpath
  unfold adaptReadFile
  rw [get_remove_ne hpath,get_remove_ne hfile,get_insertIfEmpty_ne htarget]
 have hread:adaptRead env (adaptReadFile env obj)=adaptReadFile env obj :=
  ((adaptRead_settled obj).congr (hkept _ (by decide) (by decide) (by decide))
   (hkept _ (by decide) (by decide) (by decide))).same
 have hpath:get "path" (adaptReadFile env obj)=none:=by
  unfold adaptReadFile
  rw [get_remove,if_pos rfl]
 have hfile:get "file_path" (adaptReadFile env obj)=none:=by
  unfold adaptReadFile
  rw [get_remove_ne (by decide),get_remove,if_pos rfl]
 generalize adaptReadFile env obj=final at hread hpath hfile ⊢
 unfold adaptReadFile
 simp only [hread,hpath,hfile,Option.orElse_eq_orElse,Option.orElse_none]
 rw [insertIfEmpty_same (.inr (.inl rfl)),remove_same hfile,remove_same hpath]

theorem webSearch_idempotent (obj:Members) :
 let adapt:=fun obj=>remove "search_term" (insertIfEmpty "query" (get "search_term" obj) obj)
 adapt (adapt obj)=adapt obj:=by
 intro adapt
 have hterm:get "search_term" (adapt obj)=none:=by
  change get "search_term" (remove _ _)=none
  rw [get_remove,if_pos rfl]
 change remove "search_term" (insertIfEmpty "query" (get "search_term" (adapt obj)) (adapt obj))=_
 rw [hterm,insertIfEmpty_same (.inr (.inl rfl)),remove_same hterm]

theorem adaptGrep_idempotent (obj:Members) : adaptGrep env (adaptGrep env obj)=adaptGrep env obj:=by
 have hcoerced:coerceIntegerFields env ["head_limit","-B","-A","-C"] (adaptGrep env obj) = adaptGrep env obj:=by
  refine coerceIntegerFields_same fun key hkey=>?_
  have hother:key ≠ "-i" ∧ key ≠ "case_insensitive" := by
   constructor
   all_goals
    rintro rfl
    exact absurd hkey (by decide)
  unfold adaptGrep
  rw [get_renameField_ne hother.1 hother.2]
  exact coerced_field hkey obj
 have hrenamed:get "case_insensitive" (adaptGrep env obj)=none :=
  get_renameField_old (by decide) _
 generalize adaptGrep env obj=final at hcoerced hrenamed ⊢
 unfold adaptGrep
 rw [hcoerced,renameField_same hrenamed]

theorem cellSelector_canonical (index:ℤ) : isCanonicalCellId (cellSelector index)=true:=by
 have htext:∃ rest,("cell-" ++ index.repr).toList = 'c' :: rest:=by
  rw [String.toList_append]
  exact ⟨_,rfl⟩
 obtain ⟨rest,hrest⟩:=htext
 have htrim:∃ more,trim ('c' :: rest) = 'c' :: more:=by
  have hstart:trimStart ('c' :: rest) = 'c' :: rest:=rfl
  have hfront:trim ('c' :: rest) <+: 'c' :: rest:=by
   unfold trim
   rw [hstart]
   exact List.rdropWhile_prefix ..
  cases htrimmed:trim ('c' :: rest) with
  | nil=>
   unfold trim at htrimmed
   rw [hstart,List.rdropWhile_eq_nil_iff] at htrimmed
   exact absurd (htrimmed 'c' List.mem_cons_self) (by decide)
  | cons char more=>
   rw [htrimmed] at hfront
   obtain ⟨after,hafter⟩:=hfront
   obtain ⟨rfl,-⟩:=List.cons.inj hafter
   exact ⟨more,rfl⟩
 obtain ⟨more,hmore⟩:=htrim
 have hletter:parseI64 ('c' :: more)=none:=rfl
 unfold isCanonicalCellId cellSelector isNumericCellId
 simp only [JsonValue.asStr,Option.any_some,hrest,hmore,hletter]
 rfl

theorem normalizeNotebookEdit_idempotent (obj:Members) :
 normalizeNotebookEdit env (normalizeNotebookEdit env obj)=normalizeNotebookEdit env obj:=by
 have hgone:∀ field,["notebook_path","cell_id","new_source","cell_type",
  "edit_mode"].contains field=false → get field (normalizeNotebookEdit env obj)=none :=
  retained_absent _ _
 have hcell:get "cell_id" (normalizeNotebookEdit env obj)=get "cell_id" (selectCell env
  (copyAliasIfMissing "new_source" ["source"] (insertIfEmpty "notebook_path" (get "path" obj) obj))):=by
  unfold normalizeNotebookEdit
  rw [get_retainObjectKeys,if_pos (by decide)]
 have hselected:∀ before,(get "cell_id" (selectCell env before)).any isCanonicalCellId=true ∨
  (get "cell_id" (selectCell env before)).bind (legacyCellIndex env)=none:=by
  intro before
  by_cases hcanonical:(get "cell_id" before).any isCanonicalCellId=true
  · have hkept:selectCell env before=before:=if_pos hcanonical
    rw [hkept]
    exact .inl hcanonical
  · unfold selectCell
    rw [if_neg hcanonical]
    split
    · rw [get_insert_self]
      exact .inl (cellSelector_canonical _)
    · rename_i hnone
      rw [Option.orElse_eq_none] at hnone
      exact .inr hnone.2
 have hretained:retainObjectKeys ["notebook_path","cell_id","new_source","cell_type",
  "edit_mode"] (normalizeNotebookEdit env obj)=normalizeNotebookEdit env obj :=
  retain_retain ..
 have hsettled:=hselected (copyAliasIfMissing "new_source" ["source"]
  (insertIfEmpty "notebook_path" (get "path" obj) obj))
 rw [← hcell] at hsettled
 have hpath:=hgone "path" (by decide)
 have hsource:=hgone "source" (by decide)
 have hnumber:=hgone "cell_number" (by decide)
 generalize normalizeNotebookEdit env obj=final at hretained hsettled hpath hsource hnumber ⊢
 have hselect:selectCell env final=final:=by
  unfold selectCell
  split_ifs with hcanonical
  · rfl
  · rw [hnumber,hsettled.resolve_left hcanonical]
    rfl
 unfold normalizeNotebookEdit
 rw [hpath]
 dsimp only
 rw [insertIfEmpty_same (.inr (.inl rfl)),copyAliasIfMissing_same (by simpa using hsource),
  hselect,hretained]

theorem normalizeTaskOutput_idempotent (obj:Members) :
 normalizeTaskOutput env (normalizeTaskOutput env obj)=normalizeTaskOutput env obj:=by
 have hgone:∀ field,["task_id","block","timeout"].contains field=false →
  get field (normalizeTaskOutput env obj)=none := retained_absent _ _
 have hretained:retainObjectKeys ["task_id","block","timeout"] (normalizeTaskOutput env obj) =
  normalizeTaskOutput env obj := retain_retain ..
 have hid:IdSettled (get "task_id" (normalizeTaskOutput env obj)):=by
  have hblock:∀ obj,get "task_id" (blockFlag obj)=get "task_id" obj:=by
   intro obj
   unfold blockFlag
   split_ifs
   · rfl
   · split
     · rw [get_insert_ne (by decide)]
     · rfl
  have htimeout:∀ obj,get "task_id" (timeoutField env obj)=get "task_id" obj:=by
   intro obj
   unfold timeoutField
   split_ifs
   · rfl
   · split
     · rw [get_insert_ne (by decide)]
     · rfl
  unfold normalizeTaskOutput
  dsimp only
  rw [get_retainObjectKeys,if_pos (by decide),get_dropField_ne (by decide),htimeout,hblock]
  exact fillTaskId (fun _=>candidate_settled (firstTaskId_settled _) (shellTaskId_settled _))
   (canonicalTaskId_settled _ _)
 have hvalid:get "timeout" (normalizeTaskOutput env obj) =
  (get "timeout" (normalizeTaskOutput env obj)).filter
   fun timeout=>!!validTimeout env timeout:=by
  unfold normalizeTaskOutput
  dsimp only
  rw [get_retainObjectKeys,if_pos (by decide),get_dropField_self]
  exact filter_filter_self ..
 have hshellId:=hgone "shell_id" (by decide)
 have htaskIds:=hgone "task_ids" (by decide)
 have hwait:=hgone "wait" (by decide)
 have hblocking:=hgone "blocking" (by decide)
 have htimeoutMs:=hgone "timeout_ms" (by decide)
 generalize normalizeTaskOutput env obj=final at *
 have hblock:blockFlag final=final:=by
  unfold blockFlag
  rw [hwait,hblocking,Option.bind_none]
  exact ite_self _
 have htimeout:timeoutField env final=final:=by
  unfold timeoutField
  rw [htimeoutMs,Option.bind_none]
  exact ite_self _
 have hcandidate:(firstTaskId final <|> shellTaskId final)=none:=by
  unfold firstTaskId shellTaskId
  rw [htaskIds,hshellId]
  rfl
 unfold normalizeTaskOutput
 rw [canonicalTaskId_same hid]
 dsimp only
 rw [hcandidate,Option.map_none,insertIfEmpty_same (.inr (.inl rfl)),hblock,htimeout,dropField_same hvalid,hretained]

theorem normalizeClaudeTaskStop_idempotent (obj:Members) :
 normalizeClaudeTaskStop (normalizeClaudeTaskStop obj)=normalizeClaudeTaskStop obj:=by
 have hgone:∀ field,["task_id","shell_id"].contains field=false →
  get field (normalizeClaudeTaskStop obj)=none := retained_absent _ _
 have hretained:retainObjectKeys ["task_id","shell_id"] (normalizeClaudeTaskStop obj) =
  normalizeClaudeTaskStop obj := retain_retain ..
 have hcandidate:∀ (before:Members) (id:Text),
  (shellTaskId before <|> firstTaskId before)=some id →
   IdSettled (some (textValue id)) ∧ id≠[] := fun before _=>
  candidate_settled (shellTaskId_settled before) (firstTaskId_settled before)
 have htask:IdSettled (get "task_id" (normalizeClaudeTaskStop obj)):=by
  unfold normalizeClaudeTaskStop
  dsimp only
  rw [get_retainObjectKeys,if_pos (by decide)]
  refine fillTaskId (hcandidate _) ?_
  rw [get_canonicalTaskId_ne (by decide)]
  exact canonicalTaskId_settled _ _
 have hshellKept:get "shell_id" (normalizeClaudeTaskStop obj) =
  get "shell_id" (canonicalTaskId "shell_id" (canonicalTaskId "task_id" obj)):=by
  unfold normalizeClaudeTaskStop
  dsimp only
  rw [get_retainObjectKeys,if_pos (by decide),get_insertIfEmpty_ne (by decide)]
 have hshell:IdSettled (get "shell_id" (normalizeClaudeTaskStop obj)):=by
  rw [hshellKept]
  exact canonicalTaskId_settled _ _
 have hfilled:hasNonemptyStr (normalizeClaudeTaskStop obj) "task_id" = true ∨
  shellTaskId (normalizeClaudeTaskStop obj)=none:=by
  let before:=canonicalTaskId "shell_id" (canonicalTaskId "task_id" obj)
  have hfull:=fillTaskId_full "task_id" before fun id h=>(hcandidate before id h).2
  refine hfull.imp (fun h=>?_) fun h=>?_
  · rw [← h]
    refine hasNonemptyStr_congr ?_
    unfold normalizeClaudeTaskStop
    dsimp only
    rw [get_retainObjectKeys,if_pos (by decide)]
  · rw [Option.orElse_eq_none] at h
    unfold shellTaskId at h ⊢
    rw [hshellKept,h.1]
 have htaskIds:=hgone "task_ids" (by decide)
 generalize normalizeClaudeTaskStop obj=final at *
 have hfirst:firstTaskId final=none:=by
  unfold firstTaskId
  rw [htaskIds]
  rfl
 have hfill:insertIfEmpty "task_id" ((shellTaskId final <|> firstTaskId final).map textValue)
  final=final:=by
  refine insertIfEmpty_same (hfilled.imp_right fun hnone=>.inl ?_)
  rw [hnone,hfirst]
  rfl
 unfold normalizeClaudeTaskStop
 rw [canonicalTaskId_same htask,canonicalTaskId_same hshell]
 dsimp only
 rw [hfill,hretained]

theorem normalizeGrokTaskStop_idempotent (obj:Members) :
 normalizeGrokTaskStop (normalizeGrokTaskStop obj)=normalizeGrokTaskStop obj:=by
 have hretained:retainObjectKeys ["task_id","task_ids"] (normalizeGrokTaskStop obj) =
  normalizeGrokTaskStop obj := retain_retain ..
 have hshellId:get "shell_id" (normalizeGrokTaskStop obj)=none :=
  retained_absent ["task_id","task_ids"] _ _ (by decide)
 have hlist:firstTaskId (normalizeGrokTaskStop obj)=firstTaskId obj:=by
  unfold firstTaskId normalizeGrokTaskStop
  dsimp only
  rw [get_retainObjectKeys,if_pos (by decide),get_insertIfEmpty_ne (by decide)]
 have hfilled:hasNonemptyStr (normalizeGrokTaskStop obj) "task_id" = true ∨
  (shellTaskId obj <|> firstTaskId obj)=none:=by
  have hcandidate:∀ id,(shellTaskId obj <|> firstTaskId obj)=some id → id≠[]:=fun _ h=>
   (candidate_settled (shellTaskId_settled obj) (firstTaskId_settled obj) h).2
  refine (fillTaskId_full "task_id" obj hcandidate).imp_left fun h=>?_
  rw [← h]
  refine hasNonemptyStr_congr ?_
  unfold normalizeGrokTaskStop
  dsimp only
  rw [get_retainObjectKeys,if_pos (by decide)]
 generalize normalizeGrokTaskStop obj=final at *
 have hfill:insertIfEmpty "task_id" ((shellTaskId final <|> firstTaskId final).map textValue)
  final=final:=by
  refine insertIfEmpty_same (hfilled.imp_right fun hnone=>.inl ?_)
  rw [Option.orElse_eq_none] at hnone
  unfold shellTaskId
  rw [hshellId,hlist,hnone.2]
  rfl
 unfold normalizeGrokTaskStop
 dsimp only
 rw [hfill,hretained]

theorem commandOutput_idempotent (obj:Members) :
 let adapt:=fun obj=>adaptTaskIdsList env (coerceIntegerFields env ["timeout_ms"] obj)
 adapt (adapt obj)=adapt obj:=by
 intro adapt
 have hid:get "task_id" (adapt obj)=none:=by
  change get "task_id" (remove _ _)=none
  rw [get_remove,if_pos rfl]
 have htimeout:get "timeout_ms" (adapt obj) = get "timeout_ms" (coerceIntegerFields env ["timeout_ms"] obj):=by
  change get "timeout_ms" (remove _ _)=_
  rw [get_remove_ne (by decide)]
  split
  · rw [get_insert_ne (by decide)]
  · rfl
 have hcoerced:coerceIntegerFields env ["timeout_ms"] (adapt obj)=adapt obj:=by
  refine coerceIntegerFields_same fun key hkey=>?_
  rw [List.mem_singleton.mp hkey,htimeout]
  exact coerced_field List.mem_cons_self obj
 change adaptTaskIdsList env (coerceIntegerFields env ["timeout_ms"] (adapt obj))=_
 rw [hcoerced]
 unfold adaptTaskIdsList
 have hnone:nonemptyString env none=none:=rfl
 rw [hid,hnone]
 dsimp only [Option.bind_none,Option.map_none]
 split
 · rename_i hsome
   cases hsome
 · exact remove_same hid

theorem normalCommand_again {command normal:String} (h:normalCommand command=some normal) :
 normalCommand normal=none ∧ normal ≠ "" := by
 unfold normalCommand at h
 split_ifs at h
 all_goals
  rw [← Option.some.inj h]
  decide

def CommandSettled (obj:Members) : Prop :=
 ((get "command" obj).bind JsonValue.asStr).bind normalCommand=none ∧
  ((get "command" obj).isSome=true ∨
   ∀ field∈["old_str","new_str","file_text","insert_text","insert_line"],get field obj=none)

theorem inferCommand_settled (obj:Members) : CommandSettled (inferCommand (normalizeCommand obj)):=by
 have hnormal:((get "command" (normalizeCommand obj)).bind JsonValue.asStr).bind normalCommand = none:=by
  unfold normalizeCommand
  split
  · rename_i command hcommand
    obtain ⟨text,-,htext⟩:=Option.bind_eq_some_iff.mp hcommand
    rw [get_insert_self]
    exact (normalCommand_again htext).1
  · assumption
 generalize normalizeCommand obj=before at hnormal ⊢
 have hinserted:∀ command:String,normalCommand command=none →
  CommandSettled (insert "command" (.string command) before):=by
  intro command hcommand
  unfold CommandSettled
  rw [get_insert_self]
  exact ⟨hcommand,.inl rfl⟩
 unfold inferCommand
 split_ifs with hcommand hstr hfile hinsert
 · exact ⟨hnormal,.inl hcommand⟩
 · exact hinserted _ (by decide)
 · exact hinserted _ (by decide)
 · exact hinserted _ (by decide)
 · refine ⟨hnormal,.inr ?_⟩
   simp only [Bool.or_eq_true,not_or,Bool.not_eq_true,Option.isSome_eq_false_iff,
    Option.isNone_iff_eq_none] at hstr hfile hinsert
   simp only [List.forall_mem_cons,List.not_mem_nil,false_implies,implies_true,and_true]
   exact ⟨hstr.1,hstr.2,hfile,hinsert.1,hinsert.2⟩

theorem CommandSettled.same (h:CommandSettled obj) : inferCommand (normalizeCommand obj)=obj:=by
 have hkept:normalizeCommand obj=obj:=by
  unfold normalizeCommand
  rw [h.1]
 rw [hkept]
 unfold inferCommand
 obtain hcommand | hnone:=h.2
 · rw [if_pos hcommand]
 · rw [hnone "old_str" (by decide),hnone "new_str" (by decide),hnone "file_text" (by decide),
    hnone "insert_text" (by decide),hnone "insert_line" (by decide)]
   exact ite_self _

theorem normalizeTextEditorInput_idempotent (obj:Members) :
 normalizeTextEditorInput (normalizeTextEditorInput obj)=normalizeTextEditorInput obj:=by
 have habsent:∀ field,textEditorFields.contains field=false →
  get field (normalizeTextEditorInput obj)=none := retained_absent _ _
 have hkept:∀ field,textEditorFields.contains field=true →
  get field (normalizeTextEditorInput obj) =
   get field (inferCommand (normalizeCommand (copyAliases textEditorAliases obj))):=by
  intro field hfield
  unfold normalizeTextEditorInput
  rw [get_retainObjectKeys,if_pos hfield]
 have hsettled:CommandSettled (normalizeTextEditorInput obj):=by
  obtain ⟨hnormal,hfields⟩:=inferCommand_settled (copyAliases textEditorAliases obj)
  unfold CommandSettled
  rw [hkept "command" (by decide)]
  refine ⟨hnormal,hfields.imp_right fun hnone field hfield=>?_⟩
  have hallowed : ["old_str","new_str","file_text","insert_text","insert_line"].all
   textEditorFields.contains=true := by decide
  rw [hkept field (List.all_eq_true.mp hallowed field hfield)]
  exact hnone field hfield
 have hcopied:=copyAliases_same
  (aliases_absent (show Separate textEditorAliases textEditorFields=true by decide) habsent)
 have hretained:retainObjectKeys textEditorFields (normalizeTextEditorInput obj) =
  normalizeTextEditorInput obj := retain_retain ..
 generalize normalizeTextEditorInput obj=final at hcopied hsettled hretained ⊢
 unfold normalizeTextEditorInput
 rw [hcopied,hsettled.same,hretained]

theorem adaptTodo_idempotent (item:Members) : adaptTodo (adaptTodo item)=adaptTodo item:=by
 have hid:get "id" (adaptTodo item)=none:=by
  unfold adaptTodo
  dsimp only
  rw [get_insertIfEmpty_ne (by decide),get_insert_ne (by decide),get_insert_ne (by decide),
   get_remove,if_pos rfl]
 have hcontent:get "content" (adaptTodo item) = some (textValue (todoContent (remove "id" item))):=by
  unfold adaptTodo
  dsimp only
  rw [get_insertIfEmpty_ne (by decide),get_insert_ne (by decide),get_insert_self]
 have hstatus:∃ status,["pending","in_progress","completed"].contains status=true ∧
  get "status" (adaptTodo item)=some (.string status):=by
  unfold adaptTodo
  dsimp only
  rw [get_insertIfEmpty_ne (by decide),get_insert_self]
  refine ⟨_,?_,rfl⟩
  unfold todoStatus
  cases hfound:Option.filter _ _ with
  | none=>decide
  | some status=>exact (Option.filter_eq_some_iff.mp hfound).2
 have hform:hasNonemptyStr (adaptTodo item) "activeForm" = true:=by
  unfold adaptTodo
  exact hasNonemptyStr_insertIfEmpty (ofList_ne_empty (List.cons_ne_nil _ _))
 have htrimmed:trim (todoContent (remove "id" item))=todoContent (remove "id" item) ∧
  todoContent (remove "id" item)≠[]:=by
  unfold todoContent
  cases hfound:Option.filter _ _ with
  | none=>decide
  | some text=>
   obtain ⟨hmap,hne⟩:=Option.filter_eq_some_iff.mp hfound
   obtain ⟨raw,-,rfl⟩:=Option.map_eq_some_iff.mp hmap
   exact ⟨LiveRunKeys.trim_trim _,bne_iff_ne.mp hne⟩
 have hagain:todoContent (adaptTodo item)=todoContent (remove "id" item):=by
  generalize todoContent (remove "id" item)=content at hcontent htrimmed ⊢
  unfold todoContent textValue at *
  rw [hcontent]
  simp only [Option.bind_some,JsonValue.asStr,Option.map_some,String.toList_ofList,htrimmed.1,
   Option.filter_some,if_pos (bne_iff_ne.mpr htrimmed.2),Option.getD_some]
 generalize adaptTodo item=final at *
 obtain ⟨status,hlisted,hstatus⟩:=hstatus
 have hstatusAgain:todoStatus final=status:=by
  unfold todoStatus
  rw [hstatus]
  simp only [Option.bind_some,JsonValue.asStr,Option.filter_some,if_pos hlisted,Option.getD_some]
 unfold adaptTodo
 dsimp only
 rw [remove_same hid,hagain,insert_same hcontent,hstatusAgain,insert_same hstatus,insertIfEmpty_same (.inl hform)]

theorem todoWrite_idempotent (obj:Members) : let adapt:=fun obj=>remove "merge" (adaptItems "todos" adaptTodo obj)
 adapt (adapt obj)=adapt obj:=by
 intro adapt
 have hmerge:get "merge" (adapt obj)=none:=by
  change get "merge" (remove _ _)=none
  rw [get_remove,if_pos rfl]
 have hitems:adaptItems "todos" adaptTodo (adapt obj)=adapt obj:=by
  refine adaptItems_same ?_
  change ItemsSettled adaptTodo (get "todos" (remove _ _))
  rw [get_remove_ne (by decide)]
  exact adaptItems_settled adaptTodo_idempotent _ _
 change remove "merge" (adaptItems "todos" adaptTodo (adapt obj))=_
 rw [hitems,remove_same hmerge]

end CursorProxy.ClientInputs
