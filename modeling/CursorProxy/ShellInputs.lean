import CursorProxy.ClientInputSteps

namespace CursorProxy.ClientInputs
open CursorProxy.JsonValues XmlElements FieldMaps McpArgValues DeleteCommands

variable {env:AdaptEnv} {obj:Members} {field:String}

theorem shellDescription_ne_nil (command:Text) : shellDescription command≠[]:=by
 unfold shellDescription
 dsimp only
 split_ifs with hempty
 · decide
 · exact hempty
 · exact List.concat_ne_nil _ _

def InferSettled (env:AdaptEnv) (obj:Members) : Prop :=
 hasNonemptyStr obj "command" = true ∨
  nonemptyString env (get "pattern" obj)=none ∧ nonemptyString env (get "path" obj)=none

theorem InferSettled.same (h:InferSettled env obj) : inferShellCommand env obj=obj:=by
 unfold inferShellCommand
 obtain hfull | ⟨hpattern,hpath⟩:=h
 · rw [if_pos hfull]
 · rw [hpattern,hpath]
   exact ite_self _

theorem get_inferShellCommand_ne (hcommand:field ≠ "command") (hpattern:field ≠ "pattern")
 (hpath:field ≠ "path") (obj:Members) : get field (inferShellCommand env obj)=get field obj:=by
 unfold inferShellCommand
 split_ifs
 · rfl
 · split
   · rw [get_remove_ne hpath,get_remove_ne hpattern,get_insert_ne hcommand]
   · rw [get_remove_ne hpath,get_insert_ne hcommand]
   · rfl

theorem inferred_command (pattern path:Text) :
 (rgCommand pattern path≠[] ∧ rewriteCursorDeleteForPowershell (rgCommand pattern path)=none) ∧
  lsCommand path≠[] ∧ rewriteCursorDeleteForPowershell (lsCommand path)=none:=by
 have hrg:∃ rest,rgCommand pattern path = 'r' :: 'g' :: rest:=⟨_,rfl⟩
 have hls:∃ rest,lsCommand path = 'l' :: rest:=⟨_,rfl⟩
 obtain ⟨rest,hrest⟩:=hrg
 obtain ⟨rest',hrest'⟩:=hls
 rw [hrest,hrest']
 exact ⟨⟨List.cons_ne_nil _ _,rfl⟩,List.cons_ne_nil _ _,rfl⟩

theorem inferShellCommand_cases (obj:Members) :
 inferShellCommand env obj=obj ∧ InferSettled env obj ∨
  ∃ command:Text,(command≠[] ∧ rewriteCursorDeleteForPowershell command=none) ∧
   get "command" (inferShellCommand env obj)=some (textValue command):=by
 unfold inferShellCommand
 split_ifs with hfull
 · exact .inl ⟨rfl,.inl hfull⟩
 · split
   · rename_i pattern _
     refine .inr ⟨_,(inferred_command pattern ((nonemptyString env (get "path" obj)).getD ['.'])).1,?_⟩
     rw [get_remove_ne (by decide),get_remove_ne (by decide),get_insert_self]
   · rename_i path _ _
     refine .inr ⟨_,(inferred_command [] path).2,?_⟩
     rw [get_remove_ne (by decide),get_insert_self]
   · rename_i hpattern hpath
     exact .inl ⟨rfl,.inr ⟨hpattern,hpath⟩⟩

theorem inferShellCommand_settled (obj:Members) : InferSettled env (inferShellCommand env obj):=by
 obtain ⟨hkept,hsettled⟩ | ⟨command,⟨hne,-⟩,hcommand⟩:=@inferShellCommand_cases env obj
 · rw [hkept]
   exact hsettled
 · exact .inl (hasNonemptyStr_text hcommand (ofList_ne_empty hne))

def DescribeSettled (obj:Members) : Prop :=
 hasNonemptyStr obj "description" = true ∨ (get "command" obj).bind JsonValue.asStr=none

theorem DescribeSettled.same (h:DescribeSettled obj) : describeShell obj=obj:=by
 refine insertIfEmpty_same (h.imp_right fun hnone=>.inl ?_)
 rw [hnone]
 rfl

theorem get_describeShell_ne (h:field ≠ "description") (obj:Members) : get field (describeShell obj)=get field obj :=
 get_insertIfEmpty_ne h ..

theorem describeShell_settled (obj:Members) : DescribeSettled (describeShell obj):=by
 cases hcommand:(get "command" obj).bind JsonValue.asStr with
 | none=>
  refine .inr ?_
  rw [get_describeShell_ne (by decide),hcommand]
 | some command=>
  refine .inl ?_
  unfold describeShell
  rw [hcommand]
  exact hasNonemptyStr_insertIfEmpty (ofList_ne_empty (shellDescription_ne_nil _))

theorem get_grokShellFields_ne (hbackground:field ≠ "background") (hold:field ≠ "is_background") (obj:Members) :
 get field (grokShellFields obj)=get field obj:=by
 unfold grokShellFields
 split_ifs
 · exact get_renameField_ne hbackground hold obj
 · exact get_remove_ne hold obj

theorem grokShellFields_idempotent (obj:Members) : grokShellFields (grokShellFields obj)=grokShellFields obj:=by
 have hold:get "is_background" (grokShellFields obj)=none:=by
  unfold grokShellFields
  split_ifs
  · exact get_renameField_old (by decide) obj
  · rw [get_remove,if_pos rfl]
 generalize grokShellFields obj=final at hold ⊢
 unfold grokShellFields
 rw [renameField_same hold,remove_same hold,ite_self]

theorem get_sandboxFlag_ne (hflag:field ≠ "dangerouslyDisableSandbox")
 (hold:field ≠ "dangerously_disable_sandbox") (obj:Members) : get field (sandboxFlag obj)=get field obj:=by
 unfold sandboxFlag
 split_ifs
 · rfl
 · split
   · dsimp only
     split_ifs
     · rw [get_insert_ne hflag,get_remove_ne hold]
     · rw [get_remove_ne hold]
   · rfl

theorem sandboxFlag_idempotent (obj:Members) : sandboxFlag (sandboxFlag obj)=sandboxFlag obj:=by
 have hsettled:(get "dangerouslyDisableSandbox" (sandboxFlag obj)).isSome=true ∨
  get "dangerously_disable_sandbox" (sandboxFlag obj)=none:=by
  unfold sandboxFlag
  split_ifs with hflag
  · exact .inl hflag
  · split
    · dsimp only
      refine .inr ?_
      split_ifs
      · rw [get_insert_ne (by decide),get_remove,if_pos rfl]
      · rw [get_remove,if_pos rfl]
    · exact .inr ‹_›
 generalize sandboxFlag obj=final at hsettled ⊢
 unfold sandboxFlag
 obtain hflag | hnone:=hsettled
 · rw [if_pos hflag]
 · rw [hnone]
   exact ite_self _

def droppedShellFields : List String :=
 ["background","is_background","run_in_background","working_directory","cwd","shell"]

theorem get_removeAll (keys:List String) (field:String) (obj:Members) :
 get field (keys.foldl (fun obj key=>remove key obj) obj) =
  if field∈keys then none else get field obj:=by
 induction keys generalizing obj with
 | nil=>rfl
 | cons key keys ih=>
  rw [List.foldl_cons,ih,get_remove]
  by_cases hkey:field=key
  · rw [if_pos hkey,ite_self,if_pos (List.mem_cons.mpr (.inl hkey))]
  · rw [if_neg hkey]
    by_cases hmem:field∈keys
    · rw [if_pos hmem,if_pos (List.mem_cons_of_mem _ hmem)]
    · rw [if_neg hmem,if_neg fun h=>(List.mem_cons.mp h).elim hkey hmem]

theorem get_claudeShellFields_ne (hdropped:field ∉ droppedShellFields) (hflag:field ≠ "dangerouslyDisableSandbox")
 (hold:field ≠ "dangerously_disable_sandbox") (obj:Members) : get field (claudeShellFields obj)=get field obj:=by
 have hrun:field ≠ "run_in_background" := by
  rintro rfl
  exact hdropped (by decide)
 have hbefore:get field (sandboxFlag (droppedShellFields.foldl (fun obj key=>remove key obj) obj))=get field obj:=by
  rw [get_sandboxFlag_ne hflag hold,get_removeAll,if_neg hdropped]
 unfold claudeShellFields
 dsimp only
 split
 · rw [get_insert_ne hrun]
   exact hbefore
 · exact hbefore

theorem runInBackground_boolean {flag:JsonValue} (h:runInBackground obj=some flag) : isBoolean flag=true:=by
 unfold runInBackground at h
 simp only [Option.orElse_eq_some,Option.filter_eq_some_iff] at h
 obtain h | ⟨-,h | ⟨-,h⟩⟩:=h <;> exact h.2

theorem claudeShellFields_idempotent (obj:Members) :
 claudeShellFields (claudeShellFields obj)=claudeShellFields obj:=by
 let base:=sandboxFlag (droppedShellFields.foldl (fun obj key=>remove key obj) obj)
 have hdropped:∀ key∈droppedShellFields,get key base=none:=by
  intro key hkey
  have hother:key ≠ "dangerouslyDisableSandbox" ∧ key ≠ "dangerously_disable_sandbox" := by
   constructor
   all_goals
    rintro rfl
    exact absurd hkey (by decide)
  rw [get_sandboxFlag_ne hother.1 hother.2,get_removeAll,if_pos hkey]
 have hbase:sandboxFlag base=base:=sandboxFlag_idempotent _
 have hremoved:∀ rows:Members,(∀ key∈droppedShellFields,get key rows=none) →
  droppedShellFields.foldl (fun obj key=>remove key obj) rows=rows:=by
  intro rows hrows
  generalize droppedShellFields=keys at hrows
  induction keys with
  | nil=>rfl
  | cons key keys ih=>
   rw [List.foldl_cons,remove_same (hrows key List.mem_cons_self)]
   exact ih fun key hkey=>hrows key (List.mem_cons_of_mem _ hkey)
 cases hflag:runInBackground obj with
 | none=>
  have hfinal:claudeShellFields obj=base:=by
   unfold claudeShellFields
   rw [hflag]
   rfl
  have hagain:runInBackground base=none:=by
   unfold runInBackground
   rw [hdropped "run_in_background" (by decide),hdropped "background" (by decide),
    hdropped "is_background" (by decide)]
   rfl
  rw [hfinal]
  unfold claudeShellFields
  rw [hagain]
  dsimp only
  exact (congrArg sandboxFlag (hremoved base hdropped)).trans hbase
 | some flag=>
  have hfinal:claudeShellFields obj=insert "run_in_background" flag base:=by
   unfold claudeShellFields
   rw [hflag]
   rfl
  have hagain:runInBackground (insert "run_in_background" flag base)=some flag:=by
   unfold runInBackground
   rw [get_insert_self,Option.filter_some,if_pos (runInBackground_boolean hflag)]
   rfl
  have hrest:droppedShellFields.foldl (fun obj key=>remove key obj)
   (insert "run_in_background" flag base)=base:=by
   have habsent:∀ key∈droppedShellFields,key ≠ "run_in_background" →
    get key (insert "run_in_background" flag base)=none:=by
    intro key hkey hne
    rw [get_insert_ne hne,hdropped key hkey]
   unfold droppedShellFields
   simp only [List.foldl_cons,List.foldl_nil]
   rw [remove_same (habsent "background" (by decide) (by decide)),
    remove_same (habsent "is_background" (by decide) (by decide)),
    remove_insert (hdropped "run_in_background" (by decide)),
    remove_same (hdropped "working_directory" (by decide)),
    remove_same (hdropped "cwd" (by decide)),remove_same (hdropped "shell" (by decide))]
  rw [hfinal]
  unfold claudeShellFields
  rw [hagain]
  dsimp only
  exact congrArg (insert "run_in_background" flag) ((congrArg sandboxFlag hrest).trans hbase)

/-- What a shell reads and what its further fields leave alone. -/
structure ShellFrame (fields:Members → Members) : Prop where
 keeps : ∀ field∈["command","pattern","path","description","timeout"],∀ obj,get field (fields obj)=get field obj
 idempotent : ∀ obj,fields (fields obj)=fields obj

theorem claudeShellFields_frame : ShellFrame claudeShellFields where
 keeps:=by
  intro field hfield obj
  have hothers : ["command","pattern","path","description","timeout"].all (fun field=>
   !(droppedShellFields++["dangerouslyDisableSandbox",
    "dangerously_disable_sandbox"]).contains field)=true := by decide
  have hother:=List.all_eq_true.mp hothers field hfield
  rw [Bool.not_eq_true',List.contains_eq_mem,decide_eq_false_iff_not,List.mem_append,
   not_or,List.mem_cons,List.mem_singleton,not_or] at hother
  exact get_claudeShellFields_ne hother.1 hother.2.1 hother.2.2 obj
 idempotent := claudeShellFields_idempotent

theorem grokShellFields_frame : ShellFrame grokShellFields where
 keeps:=by
  intro field hfield obj
  have hothers : ["command","pattern","path","description","timeout"].all (fun field=>
   !(["background","is_background"] : List String).contains field)=true := by decide
  have hother:=List.all_eq_true.mp hothers field hfield
  rw [Bool.not_eq_true',List.contains_eq_mem,decide_eq_false_iff_not,List.mem_cons,
   List.mem_singleton,not_or] at hother
  exact get_grokShellFields_ne hother.1 hother.2 obj
 idempotent := grokShellFields_idempotent

def shellFields (claudeSchema:Bool) : Members → Members :=
 if claudeSchema then claudeShellFields else grokShellFields

theorem shellFields_frame (claudeSchema:Bool) : ShellFrame (shellFields claudeSchema):=by
 cases claudeSchema
 · exact grokShellFields_frame
 · exact claudeShellFields_frame

theorem adaptShellLike_eq (claudeSchema:Bool) (obj:Members) :
 adaptShellLike env claudeSchema obj = shellFields claudeSchema (describeShell (inferShellCommand env obj)):=by
 cases claudeSchema <;> rfl

theorem get_adaptShellLike (claudeSchema:Bool) (obj:Members) :
 get "command" (adaptShellLike env claudeSchema obj) = get "command" (inferShellCommand env obj) ∧
  get "timeout" (adaptShellLike env claudeSchema obj)=get "timeout" obj:=by
 have hframe:=shellFields_frame claudeSchema
 rw [adaptShellLike_eq,hframe.keeps "command" (by decide),hframe.keeps "timeout" (by decide)]
 refine ⟨get_describeShell_ne (by decide) _,?_⟩
 rw [get_describeShell_ne (by decide),
  get_inferShellCommand_ne (by decide) (by decide) (by decide)]

theorem adaptShellLike_idempotent (claudeSchema:Bool) (obj:Members) :
 adaptShellLike env claudeSchema (adaptShellLike env claudeSchema obj) = adaptShellLike env claudeSchema obj:=by
 have hframe:=shellFields_frame claudeSchema
 have hinfer:InferSettled env (adaptShellLike env claudeSchema obj):=by
  have hsettled:=@inferShellCommand_settled env obj
  have hkept:∀ field∈["command","pattern","path"],
   get field (adaptShellLike env claudeSchema obj) = get field (inferShellCommand env obj):=by
   intro field hfield
   have hlisted:field∈["command","pattern","path","description","timeout"] :=
    List.mem_append_left ["description","timeout"] hfield
   have hne:field ≠ "description" := by
    rintro rfl
    exact absurd hfield (by decide)
   rw [adaptShellLike_eq,hframe.keeps field hlisted,get_describeShell_ne hne]
  unfold InferSettled at hsettled ⊢
  rw [hasNonemptyStr_congr (hkept "command" (by decide)),hkept "pattern" (by decide),
   hkept "path" (by decide)]
  exact hsettled
 have hdescribe:DescribeSettled (adaptShellLike env claudeSchema obj):=by
  have hsettled:=describeShell_settled (inferShellCommand env obj)
  unfold DescribeSettled at hsettled ⊢
  rw [adaptShellLike_eq,hasNonemptyStr_congr (hframe.keeps "description" (by decide) _),
   hframe.keeps "command" (by decide)]
  exact hsettled
 have hfields:shellFields claudeSchema (adaptShellLike env claudeSchema obj) =
  adaptShellLike env claudeSchema obj:=by
  rw [adaptShellLike_eq,hframe.idempotent]
 generalize adaptShellLike env claudeSchema obj=final at hinfer hdescribe hfields ⊢
 rw [adaptShellLike_eq,hinfer.same,hdescribe.same,hfields]

theorem shell_timeout (claudeSchema:Bool) {before:Members} (h:Coerced env (get "timeout" before)) :
 coerceIntegerFields env ["timeout"] (adaptShellLike env claudeSchema before) =
  adaptShellLike env claudeSchema before:=by
 refine coerceIntegerFields_same fun key hkey=>?_
 rw [List.mem_singleton.mp hkey,(get_adaptShellLike claudeSchema before).2]
 exact h

def NotDelete (obj:Members) : Prop :=
 ((get "command" obj).bind JsonValue.asStr).bind (fun command=>
  rewriteCursorDeleteForPowershell command.toList)=none

theorem NotDelete.same (h:NotDelete obj) : rewriteDelete obj=obj:=by
 unfold rewriteDelete
 rw [h]

theorem rewriteDelete_settled (obj:Members) : NotDelete (rewriteDelete obj):=by
 unfold rewriteDelete
 split
 · rename_i command hcommand
   obtain ⟨text,-,htext⟩:=Option.bind_eq_some_iff.mp hcommand
   obtain ⟨quoted,-,hquoted⟩:=Option.bind_eq_some_iff.mp htext
   obtain ⟨path,-,rfl⟩:=Option.map_eq_some_iff.mp hquoted
   unfold NotDelete textValue
   rw [get_insert_self]
   simp only [Option.bind_some,JsonValue.asStr,String.toList_ofList]
   rfl
 · assumption

theorem NotDelete.adaptShellLike {before:Members} (h:NotDelete before) (claudeSchema:Bool) :
 NotDelete (adaptShellLike env claudeSchema before):=by
 unfold NotDelete
 rw [(get_adaptShellLike claudeSchema before).1]
 obtain ⟨hkept,-⟩ | ⟨command,⟨-,hnot⟩,hcommand⟩:=@inferShellCommand_cases env before
 · rw [hkept]
   exact h
 · rw [hcommand]
   simp only [textValue,Option.bind_some,JsonValue.asStr,String.toList_ofList,hnot]

theorem shell_idempotent (powerShell:Bool) (obj:Members) :
 adaptObject env (.shell powerShell) (adaptObject env (.shell powerShell) obj) =
  adaptObject env (.shell powerShell) obj:=by
 have htimeout:Coerced env (get "timeout" (coerceIntegerFields env ["timeout"] obj)) :=
  coerced_field List.mem_cons_self obj
 cases powerShell with
 | false=>
  change adaptShellLike env true (coerceIntegerFields env ["timeout"]
   (adaptShellLike env true (coerceIntegerFields env ["timeout"] obj)))=_
  rw [shell_timeout true htimeout]
  exact adaptShellLike_idempotent ..
 | true=>
  have hrewritten:get "timeout" (rewriteDelete (coerceIntegerFields env ["timeout"] obj)) =
   get "timeout" (coerceIntegerFields env ["timeout"] obj):=by
   unfold rewriteDelete
   split
   · rw [get_insert_ne (by decide)]
   · rfl
  have hnot:=(rewriteDelete_settled (coerceIntegerFields env ["timeout"] obj))
  change adaptShellLike env true (rewriteDelete (coerceIntegerFields env ["timeout"]
   (adaptShellLike env true (rewriteDelete (coerceIntegerFields env ["timeout"] obj)))))=_
  rw [shell_timeout true (hrewritten ▸ htimeout),(hnot.adaptShellLike true).same]
  exact adaptShellLike_idempotent ..

theorem runTerminal_idempotent (obj:Members) :
 adaptObject env .runTerminal (adaptObject env .runTerminal obj) = adaptObject env .runTerminal obj:=by
 change adaptShellLike env false (coerceIntegerFields env ["timeout"]
  (adaptShellLike env false (coerceIntegerFields env ["timeout"] obj)))=_
 rw [shell_timeout false (coerced_field List.mem_cons_self obj)]
 exact adaptShellLike_idempotent ..

end CursorProxy.ClientInputs
