import CursorProxy.SettledInputs
import CursorProxy.ShellInputs

namespace CursorProxy.ClientInputs
open CursorProxy.JsonValues XmlElements ToolNames FieldMaps IntegerDoubles

variable {env:AdaptEnv} {obj:Members}

theorem generalPurpose_text : nonemptyString env (some (.string "general-purpose")) = some "general-purpose".toList :=
 (sanitizeSpawnString_trimmed (by decide) (by decide)).mpr rfl

theorem adaptClaudeAgentInput_idempotent (obj:Members) :
  adaptClaudeAgentInput env (adaptClaudeAgentInput env obj)=adaptClaudeAgentInput env obj:=by
 have hkept:∀ field,field ≠ "resume" → field ≠ "resume_from" → field ≠ "model" →
   get field (adaptClaudeAgentInput env obj) = get field (remapModelSlugSubagentType env obj):=by
  intro field hresume hfrom hmodel
  unfold adaptClaudeAgentInput
  dsimp only
  split_ifs
  · rw [get_remove_ne hfrom,get_remove_ne hresume]
  · rw [get_remove_ne hmodel,get_remove_ne hfrom,get_remove_ne hresume]
 have hgone:∀ field∈["resume","resume_from"],get field (adaptClaudeAgentInput env obj)=none:=by
  intro field hfield
  have hdropped:get field (remove "resume_from" (remove "resume" (remapModelSlugSubagentType env obj)))=none:=by
   rw [get_remove,get_remove]
   obtain rfl | hfield:=List.mem_cons.mp hfield
   · rw [if_neg (by decide),if_pos rfl]
   · rw [if_pos (List.mem_singleton.mp hfield)]
  unfold adaptClaudeAgentInput
  dsimp only
  split_ifs
  · exact hdropped
  · rw [get_remove,hdropped,ite_self]
 have hmodel:(get "model" (adaptClaudeAgentInput env obj)).any isClaudeModel=true ∨
   get "model" (adaptClaudeAgentInput env obj)=none:=by
  unfold adaptClaudeAgentInput
  dsimp only
  split_ifs with hvalid
  · exact .inl hvalid
  · rw [get_remove,if_pos rfl]
    exact .inr rfl
 have hremapped:∀ raw,nonemptyString env
   (get "subagent_type" (remapModelSlugSubagentType env obj))=some raw → spawnTypeLooksLikeModelId raw=false:=by
  intro raw hraw
  unfold remapModelSlugSubagentType at hraw
  split at hraw
  · rename_i before hbefore
    split_ifs at hraw with hslug
    · rw [get_insert_self,generalPurpose_text] at hraw
      rw [← Option.some.inj hraw]
      decide
    · rw [hbefore] at hraw
      rw [← Option.some.inj hraw]
      exact Bool.eq_false_iff.mpr hslug
  · rename_i hnone
    rw [hnone] at hraw
    cases hraw
 have hresume:=hgone "resume" (by decide)
 have hfrom:=hgone "resume_from" (by decide)
 rw [← hkept "subagent_type" (by decide) (by decide) (by decide)] at hremapped
 generalize adaptClaudeAgentInput env obj=final at hresume hfrom hmodel hremapped ⊢
 have hsame:remapModelSlugSubagentType env final=final:=by
  unfold remapModelSlugSubagentType
  split
  · rename_i raw hraw
    rw [hremapped raw hraw,if_neg Bool.false_ne_true]
  · rfl
 unfold adaptClaudeAgentInput
 dsimp only
 rw [hsame,remove_same hresume,remove_same hfrom]
 split_ifs with hvalid
 · rfl
 · exact remove_same (hmodel.resolve_left hvalid)

/-- Neither the field nor its first alias holds a text, both aliases are there, and the one that the
first pass leaves holds another value. -/
def LeftAlias (key:String) (obj:Members) : Prop :=
 (!hasNonemptyStr obj key&&(get "path" obj).isSome&&!hasNonemptyStr obj "path" &&
  (get "target_file" obj).isSome)=true ∧ get "target_file" obj≠get "path" obj

theorem fill_again {key:String} {final:Members} (hpath:get "path" final=none)
  (htarget:get "target_file" final=get "target_file" obj)
  (hkey:get key final=get key (insertIfEmpty key (get "path" obj <|> get "target_file" obj) obj)) :
  insertIfEmpty key (get "path" final <|> get "target_file" final) final=final ↔ ¬LeftAlias key obj:=by
 rw [hpath,htarget]
 change insertIfEmpty key (get "target_file" obj) final=final ↔ _
 rw [get_insertIfEmpty_self] at hkey
 unfold LeftAlias
 by_cases hfull:hasNonemptyStr obj key=true
 · rw [if_pos hfull] at hkey
   rw [insertIfEmpty_same (.inl ((hasNonemptyStr_congr hkey).trans hfull)),hfull]
   simp
 · rw [if_neg hfull] at hkey
   cases htargetValue:get "target_file" obj with
   | none=>
    rw [insertIfEmpty_same (.inr (.inl rfl))]
    simp
   | some target=>
    cases hpathValue:get "path" obj with
    | none=>
     rw [hpathValue,htargetValue] at hkey
     change get key final=some target at hkey
     rw [insertIfEmpty_same (.inr (.inr hkey))]
     simp
    | some path=>
     rw [hpathValue] at hkey
     have hsame:hasNonemptyStr final key=hasNonemptyStr obj "path" := by
      unfold hasNonemptyStr
      rw [hkey,hpathValue]
      rfl
     rw [Bool.not_eq_true] at hfull
     by_cases hpathFull:hasNonemptyStr obj "path" = true
     · rw [insertIfEmpty_same (.inl (hsame.trans hpathFull)),hpathFull]
       simp
     · rw [Bool.not_eq_true] at hpathFull
       rw [hfull,hpathFull]
       constructor
       · rintro hagain ⟨-,hne⟩
         have hget:=get_insertIfEmpty_self key (some target) final
         rw [hagain,hkey,hsame,hpathFull] at hget
         exact hne hget.symm
       · intro hleft
         have hequal:some target=some path:=by
          by_contra hne
          exact hleft ⟨rfl,hne⟩
         exact insertIfEmpty_same (.inr (.inr (hkey.trans hequal.symm)))

theorem adaptListDir_idempotent_iff (obj:Members) :
  adaptListDir (adaptListDir obj)=adaptListDir obj ↔ ¬LeftAlias "target_directory" obj:=by
 have hkept:∀ field,field ≠ "path" → field ≠ "pattern" → get field (adaptListDir obj) =
   get field (insertIfEmpty "target_directory" (get "path" obj <|> get "target_file" obj)
    obj):=by
  intro field hpath hpattern
  unfold adaptListDir
  rw [get_remove_ne hpattern,get_remove_ne hpath]
 have hpath:get "path" (adaptListDir obj)=none:=by
  unfold adaptListDir
  rw [get_remove_ne (by decide),get_remove,if_pos rfl]
 have hpattern:get "pattern" (adaptListDir obj)=none:=by
  unfold adaptListDir
  rw [get_remove,if_pos rfl]
 have htarget:get "target_file" (adaptListDir obj)=get "target_file" obj:=by
  rw [hkept _ (by decide) (by decide),get_insertIfEmpty_ne (by decide)]
 rw [← fill_again hpath htarget (hkept _ (by decide) (by decide))]
 generalize adaptListDir obj=final at hpath hpattern ⊢
 have habsent:∀ field,field ≠ "target_directory" → get field final=none →
   get field (insertIfEmpty "target_directory" (get "path" final <|> get "target_file" final)
    final)=none:=by
  intro field hne hnone
  rw [get_insertIfEmpty_ne hne,hnone]
 unfold adaptListDir
 rw [remove_same (habsent "path" (by decide) hpath),
  remove_same (habsent "pattern" (by decide) hpattern)]

theorem adaptWrite_idempotent_iff (obj:Members) :
  adaptWrite (adaptWrite obj)=adaptWrite obj ↔ ¬LeftAlias "file_path" obj:=by
 have hkept:∀ field,field ∉ ["path","file_text","contents","content"] →
   get field (adaptWrite obj) =
    get field (insertIfEmpty "file_path" (get "path" obj <|> get "target_file" obj) obj):=by
  intro field hfield
  simp only [List.mem_cons,List.not_mem_nil,or_false,not_or] at hfield
  unfold adaptWrite
  dsimp only
  rw [get_remove_ne hfield.2.2.1,get_remove_ne hfield.2.1,get_remove_ne hfield.1,get_insertIfEmpty_ne hfield.2.2.2]
 have hgone:∀ field∈["path","file_text","contents"],get field (adaptWrite obj)=none:=by
  intro field hfield
  unfold adaptWrite
  dsimp only
  rw [get_remove,get_remove,get_remove]
  simp only [List.mem_cons,List.not_mem_nil,or_false] at hfield
  split_ifs with hcontents htext hpath
  · rfl
  · rfl
  · rfl
  · exact absurd hfield (by simp [hcontents,htext,hpath])
 have hpath:=hgone "path" (by decide)
 have htext:=hgone "file_text" (by decide)
 have hcontents:=hgone "contents" (by decide)
 have htarget:get "target_file" (adaptWrite obj)=get "target_file" obj:=by
  rw [hkept _ (by decide),get_insertIfEmpty_ne (by decide)]
 rw [← fill_again hpath htarget (hkept _ (by decide))]
 generalize adaptWrite obj=final at hpath htext hcontents ⊢
 let filled:=insertIfEmpty "file_path" (get "path" final <|> get "target_file" final) final
 have habsent:∀ field,field ≠ "file_path" → get field filled=get field final :=
  fun field hne=>get_insertIfEmpty_ne hne ..
 have hcontent:insertIfEmpty "content" (get "file_text" filled <|> get "contents" filled)
   filled=filled:=by
  refine insertIfEmpty_same (.inr (.inl ?_))
  rw [habsent _ (by decide),habsent _ (by decide),htext,hcontents]
  rfl
 have hfinal:adaptWrite final=filled:=by
  change remove "contents" (remove "file_text" (remove "path" (insertIfEmpty "content"
   (get "file_text" filled <|> get "contents" filled) filled)))=filled
  rw [hcontent,remove_same ((habsent _ (by decide)).trans hpath),
   remove_same ((habsent _ (by decide)).trans htext),
   remove_same ((habsent _ (by decide)).trans hcontents)]
 rw [hfinal]

section spawn
variable {key:String} {value:Option JsonValue} {fields:List (String×Option JsonValue)}

theorem get_buildFields_absent (h:key ∉ fields.map Prod.fst) (out:Members) : get key (fields.foldl (fun out field=>
      match field.2 with
      | some value=>insert field.1 value out
      | none=>out) out)=get key out:=by
 induction fields generalizing out with
 | nil=>rfl
 | cons field fields ih=>
  rw [List.map_cons,List.mem_cons,not_or] at h
  rw [List.foldl_cons,ih h.2]
  split
  · exact get_insert_ne h.1 ..
  · rfl

theorem get_buildFields (hkeys:(fields.map Prod.fst).Nodup) (h:(key,value)∈fields)
  {out:Members} (hout:get key out=none) : get key (fields.foldl (fun out field=>
   match field.2 with
   | some value=>insert field.1 value out
   | none=>out) out)=value:=by
 induction fields generalizing out with
 | nil=>exact absurd h List.not_mem_nil
 | cons field fields ih=>
  rw [List.map_cons,List.nodup_cons] at hkeys
  rw [List.foldl_cons]
  obtain hfield | hmem:=List.mem_cons.mp h
  · rw [← hfield] at hkeys ⊢
    rw [get_buildFields_absent hkeys.1]
    cases value with
    | none=>exact hout
    | some value=>exact get_insert_self ..
  · refine ih hkeys.2 hmem ?_
    have hne:key≠field.1:=fun hsame=>
     hkeys.1 (List.mem_map.mpr ⟨(key,value),hmem,hsame⟩)
    split
    · rw [get_insert_ne hne,hout]
    · exact hout

theorem get_buildObject (hkeys:(fields.map Prod.fst).Nodup) (h:(key,value)∈fields) :
  get key (buildObject fields)=value :=
 get_buildFields hkeys h rfl

theorem get_buildObject_absent (h:key ∉ fields.map Prod.fst) : get key (buildObject fields)=none :=
 get_buildFields_absent h []

theorem spawnFields_keys (obj:Members) : (spawnFields env obj).map Prod.fst =
  ["description","prompt","subagent_type","resume_from","background","capability_mode",
   "isolation","cwd","model"] := rfl

theorem spawnFields_nodup (obj:Members) : ((spawnFields env obj).map Prod.fst).Nodup:=by
 rw [spawnFields_keys]
 decide

theorem text_again_iff (text:Option Text) (htext:∀ raw,text=some raw → trim raw=raw ∧ raw≠[]) :
  nonemptyString env (text.map textValue)=text ↔ ∀ raw,text=some raw → wrapped env raw=false:=by
 cases text with
 | none=>exact ⟨fun _ raw hraw=>(nomatch hraw),fun _=>rfl⟩
 | some raw=>
  obtain ⟨htrim,hne⟩:=htext raw rfl
  rw [Option.map_some,nonemptyString_textValue,sanitizeSpawnString_trimmed htrim hne]
  constructor
  · rintro hfree other hother
    rw [← Option.some.inj hother]
    exact hfree
  · exact fun h=>h raw rfl

theorem textValue_injective {text other:Option Text} (h:text.map textValue=other.map textValue) : text=other:=by
 refine Option.map_injective (fun left right hsame=>?_) h
 have hlists:=JsonValue.string.inj hsame
 rw [← String.toList_ofList (l := left),hlists,String.toList_ofList]

/-- A reading of a text that gives the text or a text that every reading keeps. -/
structure NormalText (env:AdaptEnv) (normal:Text → Option Text) : Prop where
 result : ∀ raw text,trim raw=raw → raw≠[] → normal raw=some text →
  text=raw ∨ nonemptyString env (some (textValue text))=some text ∧ normal text=some text

theorem NormalText.again_iff {normal:Text → Option Text} (h:NormalText env normal)
  (text:Option Text) (htext:∀ raw,text=some raw → trim raw=raw ∧ raw≠[]) :
  (nonemptyString env ((text.bind normal).map textValue)).bind normal=text.bind normal ↔
   ∀ raw,text=some raw → normal raw=some raw → wrapped env raw=false:=by
 cases text with
 | none=>exact ⟨fun _ raw hraw=>(nomatch hraw),fun _=>rfl⟩
 | some raw=>
  obtain ⟨htrim,hne⟩:=htext raw rfl
  rw [Option.bind_some]
  cases hnormal:normal raw with
  | none=>
   refine ⟨fun _ other hother hkept=>?_,fun _=>rfl⟩
   rw [← Option.some.inj hother,hnormal] at hkept
   exact nomatch hkept
  | some text=>
   rw [Option.map_some]
   obtain rfl | ⟨hread,hagain⟩:=h.result raw text htrim hne hnormal
   · rw [nonemptyString_textValue]
     constructor
     · rintro hround other hother -
       obtain rfl:=Option.some.inj hother
       rw [← sanitizeSpawnString_trimmed htrim hne]
       obtain ⟨inner,hinner,hresult⟩:=Option.bind_eq_some_iff.mp hround
       have hclean:=sanitizeSpawnString_some hinner
       obtain rfl | ⟨hread,-⟩:=h.result inner text hclean.1 hclean.2.1 hresult
       · exact hinner
       · rw [nonemptyString_textValue] at hread
         exact hread
     · intro hfree
       rw [(sanitizeSpawnString_trimmed htrim hne).mpr (hfree text rfl hnormal)]
       exact hnormal
   · rw [hread,Option.bind_some,hagain]
     refine ⟨fun _ other hother hkept=>?_,fun _=>rfl⟩
     obtain rfl:=Option.some.inj hother
     rw [hnormal] at hkept
     obtain rfl:=Option.some.inj hkept
     rw [nonemptyString_textValue] at hread
     exact (sanitizeSpawnString_trimmed htrim hne).mp hread

theorem constant_again {normal:Text → Option Text}
  (h:∀ raw text,normal raw=some text → nonemptyString env (some (textValue text))=some text ∧ normal text=some text)
  (text:Option Text) : (nonemptyString env ((text.bind normal).map textValue)).bind normal=text.bind normal:=by
 cases hnormal:text.bind normal with
 | none=>rfl
 | some result=>
  obtain ⟨raw,-,hraw⟩:=Option.bind_eq_some_iff.mp hnormal
  rw [Option.map_some,(h raw result hraw).1,Option.bind_some,(h raw result hraw).2]

theorem word_kept {word:Text} (htrim:trim word=word) (hne:word≠[]) (hfree:wrapped env word=false) :
  nonemptyString env (some (textValue word))=some word:=by
 rw [nonemptyString_textValue]
 exact (sanitizeSpawnString_trimmed htrim hne).mpr hfree

theorem normalizeSpawnSubagentType_normal : NormalText env normalizeSpawnSubagentType where
 result:=by
  intro raw text htrim hne hnormal
  unfold normalizeSpawnSubagentType at hnormal
  rw [htrim,if_neg hne] at hnormal
  split_ifs at hnormal
  · rw [← Option.some.inj hnormal]
    exact .inr ⟨word_kept (by decide) (by decide) rfl,by decide⟩
  · rw [← Option.some.inj hnormal]
    exact .inr ⟨word_kept (by decide) (by decide) rfl,by decide⟩
  · rw [← Option.some.inj hnormal]
    exact .inr ⟨word_kept (by decide) (by decide) rfl,by decide⟩
  · rw [← Option.some.inj hnormal]
    exact .inr ⟨word_kept (by decide) (by decide) rfl,by decide⟩
  · exact .inl (Option.some.inj hnormal).symm

theorem spawnClientModel_normal : NormalText env spawnClientModel where
 result:=by
  intro raw text _ _ hnormal
  unfold spawnClientModel at hnormal
  dsimp only at hnormal
  split_ifs at hnormal
  exact .inl (Option.some.inj hnormal).symm

theorem normalizeCapabilityMode_constant (raw text:Text) (h:normalizeCapabilityMode raw=some text) :
  nonemptyString env (some (textValue text))=some text ∧ normalizeCapabilityMode text=some text:=by
 unfold normalizeCapabilityMode at h
 split_ifs at h
 all_goals
  rw [← Option.some.inj h]
  exact ⟨word_kept (by decide) (by decide) rfl,by decide⟩

theorem normalizeIsolation_constant (raw text:Text) (h:normalizeIsolation raw=some text) :
  nonemptyString env (some (textValue text))=some text ∧ normalizeIsolation text=some text:=by
 unfold normalizeIsolation at h
 split_ifs at h
 all_goals
  rw [← Option.some.inj h]
  exact ⟨word_kept (by decide) (by decide) rfl,by decide⟩

def keptSpawnTexts (env:AdaptEnv) (obj:Members) : List (Option Text) :=
 let text:=fun key=>nonemptyString env (get key obj)
 [text "description",text "prompt",(text "subagent_type").filter fun raw=>normalizeSpawnSubagentType raw==some raw,
  text "resume_from" <|> text "resume",text "cwd",
  (text "model").filter fun raw=>spawnClientModel raw==some raw]

/-- No text that is put out is wrapped again, once it is unwrapped and trimmed. -/
def SpawnSettled (env:AdaptEnv) (obj:Members) : Prop :=
 ∀ text∈keptSpawnTexts env obj,text.any (wrapped env)=false

theorem any_wrapped (text:Option Text) : text.any (wrapped env)=false ↔
  ∀ raw,text=some raw → wrapped env raw=false:=by
 cases text with
 | none=>exact ⟨fun _ raw hraw=>(nomatch hraw),fun _=>rfl⟩
 | some raw=>
  constructor
  · rintro h other hother
    rw [← Option.some.inj hother]
    exact h
  · exact fun h=>h raw rfl

theorem any_wrapped_filter (text:Option Text) (normal:Text → Option Text) :
  (text.filter fun raw=>normal raw==some raw).any (wrapped env)=false ↔
   ∀ raw,text=some raw → normal raw=some raw → wrapped env raw=false:=by
 rw [any_wrapped]
 constructor
 · intro h raw hraw hkept
   refine h raw ?_
   rw [hraw,Option.filter_some,if_pos (beq_iff_eq.mpr hkept)]
 · intro h raw hraw
   obtain ⟨hsome,hkept⟩:=Option.filter_eq_some_iff.mp hraw
   exact h raw hsome (beq_iff_eq.mp hkept)

theorem fields_ext {others:List (String×Option JsonValue)}
  (hkeys:others.map Prod.fst=fields.map Prod.fst) (hnodup:(fields.map Prod.fst).Nodup)
  (h:buildObject others=buildObject fields) : others=fields:=by
 have hlength:others.length=fields.length:=by
  rw [← List.length_map Prod.fst,hkeys,List.length_map]
 refine List.ext_getElem hlength fun i hi hi'=>?_
 have hkey:(others[i]).1=(fields[i]).1:=by
  have hsame:(others.map Prod.fst)[i]?=(fields.map Prod.fst)[i]?:=by rw [hkeys]
  rw [List.getElem?_map,List.getElem?_map,List.getElem?_eq_getElem hi,List.getElem?_eq_getElem hi'] at hsame
  exact Option.some.inj hsame
 refine Prod.ext hkey ?_
 have hleft:=get_buildObject (hkeys ▸ hnodup) (List.getElem_mem hi)
 have hright:=get_buildObject hnodup (List.getElem_mem hi')
 calc (others[i]).2=get (others[i]).1 (buildObject others) := hleft.symm
  _=get (fields[i]).1 (buildObject fields) := by rw [hkey,h]
  _=(fields[i]).2 := hright

theorem backgroundFlag_again (flag:Option Bool) :
  ((flag.map JsonValue.bool <|> none).bind (spawnBackgroundFlag env))=flag:=by
 cases flag <;> rfl

theorem spawnFields_again_iff (obj:Members) :
  spawnFields env (buildObject (spawnFields env obj))=spawnFields env obj ↔ SpawnSettled env obj:=by
 have hget:∀ (i:ℕ) (key:String) (value:Option JsonValue),
   (spawnFields env obj)[i]?=some (key,value) →
    get key (buildObject (spawnFields env obj))=value := fun i key value h=>
  get_buildObject (spawnFields_nodup obj) (List.mem_of_getElem? h)
 have habsent:∀ key,key ∉ ["description","prompt","subagent_type","resume_from",
   "background","capability_mode","isolation","cwd","model"] →
    get key (buildObject (spawnFields env obj))=none := fun key h=>
  get_buildObject_absent (by rw [spawnFields_keys]; exact h)
 have hread:∀ value:Option JsonValue,∀ raw,nonemptyString env value=some raw →
   trim raw=raw ∧ raw≠[] := fun value raw h=>nonemptyString_some h
 have hresumes:∀ raw,(nonemptyString env (get "resume_from" obj) <|>
   nonemptyString env (get "resume" obj))=some raw → trim raw=raw ∧ raw≠[]:=by
  intro raw hraw
  rw [Option.orElse_eq_some] at hraw
  obtain h | ⟨-,h⟩:=hraw <;> exact nonemptyString_some h
 have hdescription:=hget 0 "description" _ rfl
 have hprompt:=hget 1 "prompt" _ rfl
 have htype:=hget 2 "subagent_type" _ rfl
 have hresume:=hget 3 "resume_from" _ rfl
 have hbackground:=hget 4 "background" _ rfl
 have hcapability:=hget 5 "capability_mode" _ rfl
 have hisolation:=hget 6 "isolation" _ rfl
 have hcwd:=hget 7 "cwd" _ rfl
 have hmodel:=hget 8 "model" _ rfl
 have holdResume:=habsent "resume" (by decide)
 have holdBackground:=habsent "run_in_background" (by decide)
 have hnone:nonemptyString env none=none:=rfl
 have hor:∀ text:Option Text,(text <|> none)=text:=fun text=>by cases text <;> rfl
 unfold SpawnSettled keptSpawnTexts
 generalize buildObject (spawnFields env obj)=built at *
 unfold spawnFields
 simp only [List.forall_mem_cons,List.not_mem_nil,false_implies,implies_true,and_true,
  List.cons.injEq,Prod.mk.injEq,true_and,hdescription,hprompt,htype,hresume,hbackground,
  hcapability,hisolation,hcwd,hmodel,holdResume,holdBackground,hnone,hor,
  backgroundFlag_again,constant_again normalizeCapabilityMode_constant,
  constant_again normalizeIsolation_constant,any_wrapped_filter]
 have hequal:∀ text other : Option Text,text.map textValue=other.map textValue ↔
   text=other := fun text other=>⟨textValue_injective,congrArg _⟩
 simp only [any_wrapped,hequal,text_again_iff _ (hread _),text_again_iff _ hresumes,
  normalizeSpawnSubagentType_normal.again_iff _ (hread _),spawnClientModel_normal.again_iff _ (hread _)]

theorem spawn_idempotent_iff (obj:Members) :
  buildObject (spawnFields env (buildObject (spawnFields env obj))) =
    buildObject (spawnFields env obj) ↔ SpawnSettled env obj:=by
 rw [← spawnFields_again_iff]
 refine ⟨fields_ext ?_ (spawnFields_nodup obj),congrArg _⟩
 rw [spawnFields_keys,spawnFields_keys]

end spawn

theorem adaptObject_idempotent_iff (schema:Schema) (obj:Members) :
  adaptObject env schema (adaptObject env schema obj)=adaptObject env schema obj ↔
   (schema=.listDir → ¬LeftAlias "target_directory" obj) ∧ (schema=.write → ¬LeftAlias "file_path" obj):=by
 have hplain:∀ {P Q:Prop},schema ≠ .listDir → schema ≠ .write →
   adaptObject env schema (adaptObject env schema obj)=adaptObject env schema obj →
    (adaptObject env schema (adaptObject env schema obj)=adaptObject env schema obj ↔
     (schema=.listDir → P) ∧ (schema=.write → Q)) := fun hlist hwrite h=>
  ⟨fun _=>⟨fun hsame=>absurd hsame hlist,fun hsame=>absurd hsame hwrite⟩,fun _=>h⟩
 cases schema with
 | listDir=>
  refine (adaptListDir_idempotent_iff obj).trans ⟨fun h=>⟨fun _=>h,nofun⟩,fun h=>h.1 rfl⟩
 | write=>
  refine (adaptWrite_idempotent_iff obj).trans ⟨fun h=>⟨nofun,fun _=>h⟩,fun h=>h.2 rfl⟩
 | read=>exact hplain nofun nofun (adaptRead_idempotent obj)
 | edit=>exact hplain nofun nofun (adaptEdit_idempotent obj)
 | multiEdit=>exact hplain nofun nofun (adaptMultiEdit_idempotent obj)
 | notebookEdit=>exact hplain nofun nofun (normalizeNotebookEdit_idempotent obj)
 | readFile=>exact hplain nofun nofun (adaptReadFile_idempotent obj)
 | glob=>exact hplain nofun nofun (insertIfEmpty_idempotent (by decide))
 | runTerminal=>exact hplain nofun nofun (runTerminal_idempotent obj)
 | shell powerShell=>exact hplain nofun nofun (shell_idempotent powerShell obj)
 | textEditor=>exact hplain nofun nofun (normalizeTextEditorInput_idempotent obj)
 | grep=>exact hplain nofun nofun (adaptGrep_idempotent obj)
 | webSearch=>exact hplain nofun nofun (webSearch_idempotent obj)
 | webFetch=>exact hplain nofun nofun (insertIfEmpty_idempotent (by decide))
 | todoWrite=>exact hplain nofun nofun (todoWrite_idempotent obj)
 | commandOutput=>exact hplain nofun nofun (commandOutput_idempotent obj)
 | taskOutput=>exact hplain nofun nofun (normalizeTaskOutput_idempotent obj)
 | grokTaskStop=>exact hplain nofun nofun (normalizeGrokTaskStop_idempotent obj)
 | claudeTaskStop=>exact hplain nofun nofun (normalizeClaudeTaskStop_idempotent obj)
 | planMode=>exact hplain nofun nofun rfl
 | exitPlanMode=>exact hplain nofun nofun (retain_retain ..)
 | other=>exact hplain nofun nofun rfl

/-- Of a foreign tool nothing is asked, nor of an input that is no object. The texts of a spawn are
not wrapped twice, and a path that is listed or written has no second alias that differs. -/
def Settled (env:AdaptEnv) (advertisedName:String) : JsonValue → Prop
 | .object obj=>
  let schemaName:=stripMcpProviderPrefix advertisedName
  isForeignQualifiedMcpName advertisedName=true ∨
   if schemaName = "spawn_subagent" then SpawnSettled env obj
   else if ["Agent","Task"].contains schemaName=true then True
   else (schemaOf schemaName=.listDir → ¬LeftAlias "target_directory" obj) ∧
    (schemaOf schemaName=.write → ¬LeftAlias "file_path" obj)
 | _=>True

theorem object_iff {left right:Members} {P:Prop} (h:left=right ↔ P) :
  JsonValue.object left=JsonValue.object right ↔ P :=
 ⟨fun hsame=>h.mp (JsonValue.object.inj hsame),fun hp=>congrArg _ (h.mpr hp)⟩

theorem adaptToolInputForClient_idempotent_iff (advertisedName:String) (input:JsonValue) :
  adaptToolInputForClient env advertisedName (adaptToolInputForClient env advertisedName input) =
    adaptToolInputForClient env advertisedName input ↔ Settled env advertisedName input:=by
 unfold adaptToolInputForClient
 dsimp only
 by_cases hforeign:isForeignQualifiedMcpName advertisedName=true
 · rw [if_pos hforeign,if_pos hforeign]
   refine ⟨fun _=>?_,fun _=>rfl⟩
   cases input with
   | object obj=>exact .inl hforeign
   | null | bool | number | string | array=>trivial
 · rw [if_neg hforeign,if_neg hforeign]
   by_cases hspawn:stripMcpProviderPrefix advertisedName = "spawn_subagent"
   · rw [if_pos hspawn,if_pos hspawn]
     cases input with
     | object obj=>
      refine (object_iff (spawn_idempotent_iff obj)).trans ?_
      unfold Settled
      dsimp only
      rw [if_pos hspawn,or_iff_right hforeign]
     | null | bool | number | string | array=>exact ⟨fun _=>trivial,fun _=>rfl⟩
   · rw [if_neg hspawn,if_neg hspawn]
     cases input with
     | object obj=>
      unfold Settled
      dsimp only
      rw [if_neg hspawn,or_iff_right hforeign]
      by_cases hagent:["Agent","Task"].contains (stripMcpProviderPrefix advertisedName)=true
      · rw [if_pos hagent,if_pos hagent]
        dsimp only
        rw [if_pos hagent,adaptClaudeAgentInput_idempotent]
        exact ⟨fun _=>trivial,fun _=>rfl⟩
      · rw [if_neg hagent,if_neg hagent]
        dsimp only
        rw [if_neg hagent]
        exact object_iff (adaptObject_idempotent_iff _ obj)
     | null | bool | number | string | array=>exact ⟨fun _=>trivial,fun _=>rfl⟩

/-- A second adaptation changes nothing exactly where the input is settled. -/
theorem adaptClientToolInput_idempotent_iff (env:AdaptEnv) (advertisedName:String) (input:JsonValue) :
    adaptClientToolInput env advertisedName (adaptClientToolInput env advertisedName input) =
        adaptClientToolInput env advertisedName input ↔ Settled env advertisedName input:=by
  have hsame:adaptClientToolInput env advertisedName = adaptToolInputForClient env advertisedName:=by
    funext input
    unfold adaptClientToolInput
    split_ifs with hname
    · have hlocal:isForeignQualifiedMcpName "spawn_subagent" = false:=by decide
      have hschema:stripMcpProviderPrefix "spawn_subagent" = "spawn_subagent" := by decide
      unfold adaptToolInputForClient
      rw [hname,hlocal,if_neg Bool.false_ne_true,hschema]
      exact (if_pos rfl).symm
    · rfl
  rw [hsame]
  exact adaptToolInputForClient_idempotent_iff advertisedName input

def plainEnv : AdaptEnv where
 fromStr _ := none
 asF64 _ := .zero
 fromF64 _ := "0.0"
 decode _ := none
 base64Std _ := ""
 decode_shorter := nofun

def emptyPath : JsonValue := .object [("path",.string ""),("target_file",.string "x")]

/-- The empty path is taken first, and the file that is left behind in its place. -/
theorem list_dir_adapted_twice :
    adaptClientToolInput plainEnv "list_dir" (adaptClientToolInput plainEnv "list_dir" emptyPath) ≠
      adaptClientToolInput plainEnv "list_dir" emptyPath:=by
  have hdirectory:((adaptClientToolInput plainEnv "list_dir" emptyPath).get
      "target_directory").bind JsonValue.asStr=some "" := by decide +kernel
  have hagain:((adaptClientToolInput plainEnv "list_dir"
      (adaptClientToolInput plainEnv "list_dir" emptyPath)).get "target_directory").bind
        JsonValue.asStr=some "x" := by decide +kernel
  intro hsame
  rw [hsame,hdirectory] at hagain
  exact absurd hagain (by decide)

end CursorProxy.ClientInputs
