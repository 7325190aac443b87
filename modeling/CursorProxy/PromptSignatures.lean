import CursorProxy.CodexRequests

/-! Two requests with one signature have the same fields but for the input, as they are written.
They have the same values there unless both choose a tool in a way that is written as null. -/
namespace CursorProxy.PromptSignatures
open JsonValues StableJson CodexReducer CodexRequests DelimitedWords

theorem present_keys (fields:Fields) : ((present fields).map Prod.fst).Sublist (fields.map Prod.fst):=by
 induction fields with
 | nil=>exact .slnil
 | cons field fields ih=>
  obtain ⟨key,value⟩:=field
  cases value with
  | none=>exact ih.cons _
  | some value=>exact ih.cons_cons _

theorem not_present {fields:Fields} {key:String} {value:JsonValue}
 (h:key ∉ fields.map Prod.fst) : (key,value) ∉ present fields :=
 fun hmem=>h ((present_keys fields).mem (List.mem_map_of_mem hmem))

theorem present_inj : ∀ {fields others:Fields},fields.map Prod.fst=others.map Prod.fst →
 (fields.map Prod.fst).Nodup → present fields=present others → fields=others
 | [],[],_,_,_=>rfl
 | (key,value)::fields,(key',value')::others,hkeys,hnodup,h=>by
  obtain ⟨rfl,hrest⟩:=List.cons.inj hkeys
  obtain ⟨hfresh,hnodup'⟩:=List.nodup_cons.mp hnodup
  have hfresh':key ∉ others.map Prod.fst:=fun hmem=>hfresh (by rw [hrest]; exact hmem)
  cases value with
  | none=>
   cases value' with
   | none=>rw [present_inj hrest hnodup' h]
   | some value'=>
    have hhere:present fields=(key,value')::present others:=h
    exact absurd (by rw [hhere]; exact List.mem_cons_self) (not_present hfresh)
  | some value=>
   cases value' with
   | none=>
    have hhere:(key,value)::present fields=present others:=h
    exact absurd (by rw [← hhere]; exact List.mem_cons_self) (not_present hfresh')
   | some value'=>
    obtain ⟨hvalue,htail⟩:=List.cons.inj h
    rw [(Prod.mk.inj hvalue).2,present_inj hrest hnodup' htail]

theorem objectOf_inj {fields others:Fields} (h:objectOf fields=objectOf others)
 (hkeys:fields.map Prod.fst=others.map Prod.fst) (hnodup:(fields.map Prod.fst).Nodup) : fields=others :=
 present_inj hkeys hnodup (JsonValue.object.inj h)

/-- Each field that is written is a value of `serde_json`. -/
def HeldFields (fields:Fields) : Prop :=
 ∀ field∈fields,∀ value,field.2=some value → Held value

theorem heldFields_nil : HeldFields [] := fun _ h=>absurd h List.not_mem_nil

theorem heldFields_cons {key:String} {value:Option JsonValue} {fields:Fields}
 (hvalue:∀ found,value=some found → Held found) (h:HeldFields fields) : HeldFields ((key,value)::fields):=by
 intro field hfield
 obtain rfl | hrest:=List.mem_cons.mp hfield
 · exact hvalue
 · exact h field hrest

theorem held_some {value:JsonValue} (h:Held value) : ∀ found,some value=some found → Held found:=by
 rintro found ⟨⟩
 exact h

theorem held_map {α:Type} {toValue:α → JsonValue} (h:∀ item,Held (toValue item))
 (item:Option α) : ∀ found,item.map toValue=some found → Held found:=by
 intro found hfound
 obtain ⟨value,_,rfl⟩:=Option.map_eq_some_iff.mp hfound
 exact h value

theorem objectOf_held {fields:Fields} (hkeys:(fields.map Prod.fst).Pairwise (· < ·))
 (h:HeldFields fields) : Held (objectOf fields):=by
 refine .object (hkeys.sublist (present_keys fields)) ?_
 intro entry hentry
 obtain ⟨field,hfield,hvalue⟩:=List.mem_filterMap.mp hentry
 obtain ⟨value,hsome,rfl⟩:=Option.map_eq_some_iff.mp hvalue
 exact h field hfield value hsome

theorem array_held {α:Type} {toValue:α → JsonValue} (h:∀ item,Held (toValue item))
 (items:List α) : Held (.array (items.map toValue)):=by
 refine .array fun value hvalue=>?_
 obtain ⟨item,_,rfl⟩:=List.mem_map.mp hvalue
 exact h item

theorem strings_held (items:List String) : Held (strings items) := array_held .string items

theorem Effort.toValue_held (effort:Effort) : Held effort.toValue:=by
 cases effort <;> exact .string _

theorem ServiceTier.toValue_held (tier:ServiceTier) : Held tier.toValue:=by
 cases tier <;> exact .string _

theorem ResponsesToolChoice.toValue_held (choice:ResponsesToolChoice) : Held choice.toValue:=by
 cases choice with
 | auto | none | required=>exact .null
 | function type name=>
  refine objectOf_held (by simp only [List.map_cons,List.map_nil]; decide) ?_
  exact heldFields_cons (held_some (.string _)) (heldFields_cons (held_some (.string _)) heldFields_nil)
 | webSearch type=>
  refine objectOf_held (by simp only [List.map_cons,List.map_nil]; decide) ?_
  exact heldFields_cons (held_some (.string _)) heldFields_nil
 | allowedTools type mode tools=>
  refine objectOf_held (by simp only [List.map_cons,List.map_nil]; decide) ?_
  exact heldFields_cons (held_some (.string _)) (heldFields_cons
   (held_some (array_held Value.held tools)) (heldFields_cons (held_some (.string _)) heldFields_nil))

theorem ResponsesReasoning.toValue_held (reasoning:ResponsesReasoning) : Held reasoning.toValue:=by
 refine objectOf_held (by simp only [List.map_cons,List.map_nil]; decide) ?_
 exact heldFields_cons (held_map .string _) (heldFields_cons (held_map Effort.toValue_held _)
  (heldFields_cons (held_map .string _) heldFields_nil))

theorem strict_held (strict:Option Bool) : Held ((strict.map JsonValue.bool).getD .null):=by
 cases strict with
 | none=>exact .null
 | some strict=>exact .bool strict

theorem ResponsesTextFormat.toValue_held (format:ResponsesTextFormat) : Held format.toValue:=by
 cases format with
 | text | jsonObject=>
  refine objectOf_held (by simp only [List.map_cons,List.map_nil]; decide) ?_
  exact heldFields_cons (held_some (.string _)) heldFields_nil
 | jsonSchema name schema strict=>
  refine objectOf_held (by simp only [List.map_cons,List.map_nil]; decide) ?_
  exact heldFields_cons (held_some (.string _)) (heldFields_cons (held_some schema.held)
   (heldFields_cons (held_some (strict_held strict)) (heldFields_cons (held_some (.string _)) heldFields_nil)))

theorem ResponsesText.toValue_held (text:ResponsesText) : Held text.toValue:=by
 refine objectOf_held (by simp only [List.map_cons,List.map_nil]; decide) ?_
 exact heldFields_cons (held_map ResponsesTextFormat.toValue_held _)
  (heldFields_cons (held_map .string _) heldFields_nil)

theorem ResponsesWebSearchFilters.toValue_held (filters:ResponsesWebSearchFilters) : Held filters.toValue:=by
 refine objectOf_held (by simp only [List.map_cons,List.map_nil]; decide) ?_
 exact heldFields_cons (held_map strings_held _) (heldFields_cons (held_map strings_held _) heldFields_nil)

theorem ResponsesTool.toValue_held (tool:ResponsesTool) : Held tool.toValue:=by
 cases tool with
 | function kind name description parameters strict=>
  refine objectOf_held (by simp only [List.map_cons,List.map_nil]; decide) ?_
  exact heldFields_cons (held_map .string _) (heldFields_cons (held_some (.string _))
   (heldFields_cons (held_some parameters.held) (heldFields_cons (held_some (.bool _))
   (heldFields_cons (held_some (.string _)) heldFields_nil))))
 | webSearch kind externalWebAccess searchContentTypes filters=>
  refine objectOf_held (by simp only [List.map_cons,List.map_nil]; decide) ?_
  exact heldFields_cons (held_some (.bool _)) (heldFields_cons
   (held_map ResponsesWebSearchFilters.toValue_held _) (heldFields_cons
   (held_some (strings_held _)) (heldFields_cons (held_some (.string _)) heldFields_nil)))

theorem Metadata.toValue_held (metadata:Metadata) : Held metadata.toValue:=by
 refine .object ?_ ?_
 · rw [List.map_map]
   exact metadata.sorted
 · intro entry hentry
   obtain ⟨_,_,rfl⟩:=List.mem_map.mp hentry
   exact .string _

theorem promptFields_eq (body:ResponsesRequest) :
 body.promptFields =
  [("client_metadata",body.clientMetadata.map Metadata.toValue),
   ("include",body.includes.map strings),("instructions",body.instructions.map .string),
   ("model",some (.string body.model)),("parallel_tool_calls",some (.bool body.parallelToolCalls)),
   ("prompt_cache_key",body.promptCacheKey.map .string),
   ("reasoning",body.reasoning.map ResponsesReasoning.toValue),
   ("service_tier",body.serviceTier.map ServiceTier.toValue),("store",some (.bool body.store)),
   ("stream",some (.bool body.stream)),("text",some body.text.toValue),
   ("tool_choice",body.toolChoice.map ResponsesToolChoice.toValue),
   ("tools",body.tools.map fun tools=>.array (tools.map ResponsesTool.toValue))] := rfl

def promptKeys : List String :=
 ["client_metadata","include","instructions","model","parallel_tool_calls",
  "prompt_cache_key","reasoning","service_tier","store","stream","text","tool_choice","tools"]

theorem promptFields_keys (body:ResponsesRequest) : body.promptFields.map Prod.fst=promptKeys := rfl

theorem promptKeys_sorted : promptKeys.Pairwise (· < ·) := by decide

theorem promptFields_held (body:ResponsesRequest) : HeldFields body.promptFields:=by
 rw [promptFields_eq]
 refine heldFields_cons (held_map Metadata.toValue_held _) ?_
 refine heldFields_cons (held_map strings_held _) ?_
 refine heldFields_cons (held_map .string _) ?_
 refine heldFields_cons (held_some (.string _)) ?_
 refine heldFields_cons (held_some (.bool _)) ?_
 refine heldFields_cons (held_map .string _) ?_
 refine heldFields_cons (held_map ResponsesReasoning.toValue_held _) ?_
 refine heldFields_cons (held_map ServiceTier.toValue_held _) ?_
 refine heldFields_cons (held_some (.bool _)) ?_
 refine heldFields_cons (held_some (.bool _)) ?_
 refine heldFields_cons (held_some (ResponsesText.toValue_held _)) ?_
 refine heldFields_cons (held_map ResponsesToolChoice.toValue_held _) ?_
 refine heldFields_cons (held_map ?_ _) heldFields_nil
 exact fun tools=>array_held ResponsesTool.toValue_held tools

theorem prompt_held (body:ResponsesRequest) : Held (objectOf body.promptFields):=by
 refine objectOf_held ?_ (promptFields_held body)
 rw [promptFields_keys]
 exact promptKeys_sorted

theorem string_injective : Function.Injective JsonValue.string := fun _ _ h=>
 JsonValue.string.inj h

theorem array_injective {α:Type} {toValue:α → JsonValue} (h:Function.Injective toValue) :
 Function.Injective fun items : List α=>JsonValue.array (items.map toValue) :=
 fun _ _ hsame=>List.map_injective_iff.mpr h (JsonValue.array.inj hsame)

theorem strings_injective : Function.Injective strings := array_injective string_injective

theorem Value.json_injective : Function.Injective Value.json:=by
 rintro ⟨json,_⟩ ⟨other,_⟩ h
 cases h
 rfl

theorem Effort.toValue_injective : Function.Injective Effort.toValue:=by
 intro effort other h
 cases effort <;> cases other <;>
  first | rfl | exact absurd (JsonValue.string.inj h) (by decide)

theorem ServiceTier.toValue_injective : Function.Injective ServiceTier.toValue:=by
 intro tier other h
 cases tier <;> cases other <;>
  first | rfl | exact absurd (JsonValue.string.inj h) (by decide)

theorem ResponsesReasoning.toValue_injective : Function.Injective ResponsesReasoning.toValue:=by
 rintro ⟨effort,summary,context⟩ ⟨effort',summary',context'⟩ h
 have hfields:=objectOf_inj h rfl (by simp only [List.map_cons,List.map_nil]; decide)
 simp only [List.cons.injEq,Prod.mk.injEq,true_and,and_true] at hfields
 obtain ⟨hcontext,heffort,hsummary⟩:=hfields
 rw [Option.map_injective string_injective hcontext,Option.map_injective Effort.toValue_injective heffort,
  Option.map_injective string_injective hsummary]

theorem strict_injective : Function.Injective fun strict : Option Bool=>(strict.map JsonValue.bool).getD .null:=by
 intro strict other h
 cases strict with
 | none=>
  cases other with
  | none=>rfl
  | some other=>exact absurd h JsonValue.noConfusion
 | some strict=>
  cases other with
  | none=>exact absurd h JsonValue.noConfusion
  | some other=>exact congrArg some (JsonValue.bool.inj h)

theorem ResponsesTextFormat.toValue_injective : Function.Injective ResponsesTextFormat.toValue:=by
 intro format other h
 have htype:=congrArg (JsonValue.get "type") h
 cases format with
 | text=>
  cases other with
  | text=>rfl
  | jsonObject | jsonSchema=>exact absurd (string_injective (Option.some.inj htype)) (by decide)
 | jsonObject=>
  cases other with
  | jsonObject=>rfl
  | text | jsonSchema=>exact absurd (string_injective (Option.some.inj htype)) (by decide)
 | jsonSchema name schema strict=>
  cases other with
  | text | jsonObject=>exact absurd (string_injective (Option.some.inj htype)) (by decide)
  | jsonSchema name' schema' strict'=>
   have hfields:=objectOf_inj h rfl (by simp only [List.map_cons,List.map_nil]; decide)
   simp only [List.cons.injEq,Prod.mk.injEq,true_and,and_true,Option.some.injEq] at hfields
   obtain ⟨hname,hschema,hstrict⟩:=hfields
   rw [string_injective hname,Value.json_injective hschema,strict_injective hstrict]

theorem ResponsesText.toValue_injective : Function.Injective ResponsesText.toValue:=by
 rintro ⟨verbosity,format⟩ ⟨verbosity',format'⟩ h
 have hfields:=objectOf_inj h rfl (by simp only [List.map_cons,List.map_nil]; decide)
 simp only [List.cons.injEq,Prod.mk.injEq,true_and,and_true] at hfields
 rw [Option.map_injective ResponsesTextFormat.toValue_injective hfields.1,
  Option.map_injective string_injective hfields.2]

theorem ResponsesWebSearchFilters.toValue_injective : Function.Injective ResponsesWebSearchFilters.toValue:=by
 rintro ⟨allowed,blocked⟩ ⟨allowed',blocked'⟩ h
 have hfields:=objectOf_inj h rfl (by simp only [List.map_cons,List.map_nil]; decide)
 simp only [List.cons.injEq,Prod.mk.injEq,true_and,and_true] at hfields
 rw [Option.map_injective strings_injective hfields.1,Option.map_injective strings_injective hfields.2]

theorem ResponsesTool.toValue_injective : Function.Injective ResponsesTool.toValue:=by
 intro tool other h
 have hparameters:=congrArg (JsonValue.get "parameters") h
 cases tool with
 | function kind name description parameters strict=>
  cases other with
  | function kind' name' description' parameters' strict'=>
   have hfields:=objectOf_inj h rfl (by simp only [List.map_cons,List.map_nil]; decide)
   simp only [List.cons.injEq,Prod.mk.injEq,true_and,and_true,Option.some.injEq] at hfields
   obtain ⟨hdescription,hname,hvalue,hstrict,hkind⟩:=hfields
   rw [Option.map_injective string_injective hdescription,string_injective hname,
    Value.json_injective hvalue,JsonValue.bool.inj hstrict,string_injective hkind]
  | webSearch _ _ _ filters=>
   cases description <;> cases filters <;> exact absurd hparameters (Option.some_ne_none _)
 | webSearch kind externalWebAccess searchContentTypes filters=>
  cases other with
  | function _ _ description=>
   cases description <;> cases filters <;> exact absurd hparameters.symm (Option.some_ne_none _)
  | webSearch kind' externalWebAccess' searchContentTypes' filters'=>
   have hfields:=objectOf_inj h rfl (by simp only [List.map_cons,List.map_nil]; decide)
   simp only [List.cons.injEq,Prod.mk.injEq,true_and,and_true,Option.some.injEq] at hfields
   obtain ⟨haccess,hfilters,htypes,hkind⟩:=hfields
   rw [JsonValue.bool.inj haccess,strings_injective htypes,string_injective hkind,
    Option.map_injective ResponsesWebSearchFilters.toValue_injective hfilters]

theorem Metadata.toValue_injective : Function.Injective Metadata.toValue:=by
 rintro ⟨entries,_⟩ ⟨others,_⟩ h
 have hpair:Function.Injective fun entry : String×String=>
  (entry.1,JsonValue.string entry.2):=by
  rintro ⟨key,value⟩ ⟨key',value'⟩ hsame
  obtain ⟨hkey,hvalue⟩:=Prod.mk.inj hsame
  exact Prod.ext hkey (string_injective hvalue)
 cases List.map_injective_iff.mpr hpair (JsonValue.object.inj h)
 rfl

def Bare : ResponsesToolChoice → Prop
 | .auto | .none | .required=>True
 | _=>False

/-- Two different choices that are written alike. -/
def Blurred (choice other:Option ResponsesToolChoice) : Prop :=
 choice≠other ∧ (∃ found,choice=some found ∧ Bare found) ∧ ∃ found,other=some found ∧ Bare found

theorem ResponsesToolChoice.toValue_told {choice other:ResponsesToolChoice}
 (h:choice.toValue=other.toValue) : choice=other ∨ Bare choice ∧ Bare other:=by
 have hname:=congrArg (JsonValue.get "name") h
 have hmode:=congrArg (JsonValue.get "mode") h
 cases choice with
 | auto | none | required=>
  cases other with
  | auto | none | required=>exact .inr ⟨trivial,trivial⟩
  | _=>exact absurd h JsonValue.noConfusion
 | function type name=>
  cases other with
  | auto | none | required=>exact absurd h JsonValue.noConfusion
  | function type' name'=>
   have hfields:=objectOf_inj h rfl (by simp only [List.map_cons,List.map_nil]; decide)
   simp only [List.cons.injEq,Prod.mk.injEq,true_and,and_true,Option.some.injEq] at hfields
   rw [string_injective hfields.1,string_injective hfields.2]
   exact .inl rfl
  | webSearch | allowedTools=>exact absurd hname (Option.some_ne_none _)
 | webSearch type=>
  cases other with
  | auto | none | required=>exact absurd h JsonValue.noConfusion
  | function=>exact absurd hname.symm (Option.some_ne_none _)
  | webSearch type'=>
   have hfields:=objectOf_inj h rfl (by simp only [List.map_cons,List.map_nil]; decide)
   simp only [List.cons.injEq,Prod.mk.injEq,true_and,and_true,Option.some.injEq] at hfields
   rw [string_injective hfields]
   exact .inl rfl
  | allowedTools=>exact absurd hmode.symm (Option.some_ne_none _)
 | allowedTools type mode tools=>
  cases other with
  | auto | none | required=>exact absurd h JsonValue.noConfusion
  | function=>exact absurd hname.symm (Option.some_ne_none _)
  | webSearch=>exact absurd hmode (Option.some_ne_none _)
  | allowedTools type' mode' tools'=>
   have hfields:=objectOf_inj h rfl (by simp only [List.map_cons,List.map_nil]; decide)
   simp only [List.cons.injEq,Prod.mk.injEq,true_and,and_true,Option.some.injEq] at hfields
   obtain ⟨hmode,htools,htype⟩:=hfields
   rw [string_injective hmode,string_injective htype,array_injective Value.json_injective htools]
   exact .inl rfl

theorem toolChoice_told {choice other:Option ResponsesToolChoice}
 (h:choice.map ResponsesToolChoice.toValue=other.map ResponsesToolChoice.toValue) :
 choice=other ↔ ¬Blurred choice other:=by
 refine ⟨fun hsame hblurred=>hblurred.1 hsame,fun hclear=>?_⟩
 by_contra hne
 cases choice with
 | none=>
  cases other with
  | none=>exact hne rfl
  | some other=>exact absurd h.symm (Option.some_ne_none _)
 | some choice=>
  cases other with
  | none=>exact absurd h (Option.some_ne_none _)
  | some other=>
   obtain rfl | ⟨hbare,hbare'⟩ :=
    ResponsesToolChoice.toValue_told (Option.some.inj h)
   · exact hne rfl
   · exact hclear ⟨hne,⟨choice,rfl,hbare⟩,⟨other,rfl,hbare'⟩⟩

theorem present_filter (fields:Fields) (keep:String → Bool) :
 (present fields).filter (fun entry=>keep entry.1) =
  present (fields.filter fun field=>keep field.1):=by
 induction fields with
 | nil=>rfl
 | cons field fields ih=>
  obtain ⟨key,value⟩:=field
  cases hkeep:keep key with
  | false=>
   rw [List.filter_cons_of_neg (by rw [hkeep]; exact Bool.false_ne_true),← ih]
   cases value with
   | none=>rfl
   | some value=>
    exact List.filter_cons_of_neg (by rw [hkeep]; exact Bool.false_ne_true)
  | true=>
   have hfields:((key,value)::fields).filter (fun field=>keep field.1) =
    (key,value)::fields.filter fun field=>keep field.1 := List.filter_cons_of_pos hkeep
   rw [hfields]
   cases value with
   | none=>exact ih
   | some value=>
    have hentries:((key,value)::present fields).filter (fun entry=>keep entry.1) =
     (key,value)::(present fields).filter fun entry=>keep entry.1 :=
     List.filter_cons_of_pos hkeep
    exact hentries.trans (congrArg (List.cons (key,value)) ih)

theorem promptKeys_plain : ∀ key∈promptKeys,quote key = '"' :: key.toList++['"'] := by decide

theorem promptSignature_eq (body:ResponsesRequest) : promptSignature body=stableJson (objectOf body.promptFields):=by
 have hsub:=present_keys body.promptFields
 rw [promptFields_keys] at hsub
 have hkeys:=promptKeys_sorted.sublist hsub
 have hsorted:(present body.promptFields).Pairwise fun first second=>first.1 ≤ second.1 :=
  (List.pairwise_map.mp hkeys).imp fun hlt=>le_of_lt hlt
 have hfilter:(present body.fields).filter (fun entry=>entry.1 ≠ "input") =
  present body.promptFields := present_filter body.fields fun key=>key ≠ "input"
 have htexts:(present body.promptFields).map signatureText = (present body.promptFields).map memberText:=by
  refine List.map_congr_left fun entry hentry=>?_
  have hkey:entry.1∈promptKeys:=hsub.mem (List.mem_map_of_mem hentry)
  unfold signatureText memberText
  rw [promptKeys_plain entry.1 hkey]
  simp only [List.cons_append,List.append_assoc,List.nil_append]
 unfold promptSignature
 dsimp only
 rw [hfilter,List.Pairwise.insertionSort_eq hsorted,htexts]
 exact (stableJson_object hkeys).symm

theorem signature_told {body other:ResponsesRequest}
 (h:promptSignature body=promptSignature other) : body.promptFields=other.promptFields:=by
 rw [promptSignature_eq,promptSignature_eq] at h
 refine objectOf_inj (stableJson_injective (prompt_held body) (prompt_held other) h) rfl ?_
 rw [promptFields_keys]
 exact promptKeys_sorted.nodup

def withoutInput (body:ResponsesRequest) : ResponsesRequest := { body with input := [] }

theorem fields_told {body other:ResponsesRequest} (h:body.promptFields=other.promptFields) :
 withoutInput body=withoutInput other ↔ ¬Blurred body.toolChoice other.toolChoice:=by
 rw [promptFields_eq,promptFields_eq] at h
 simp only [List.cons.injEq,Prod.mk.injEq,true_and,and_true,Option.some.injEq] at h
 obtain ⟨hmetadata,hincludes,hinstructions,hmodel,hparallel,hcache,hreasoning,htier,
  hstore,hstream,htext,hchoice,htools⟩ := h
 rw [← toolChoice_told hchoice]
 refine ⟨fun hsame=>(ResponsesRequest.mk.inj hsame).2.2.2.2.1,fun hsame=>?_⟩
 obtain ⟨⟩:=body
 obtain ⟨⟩:=other
 simp only [withoutInput,ResponsesRequest.mk.injEq,true_and]
 exact ⟨string_injective hmodel,Option.map_injective string_injective hinstructions,
  Option.map_injective (array_injective ResponsesTool.toValue_injective) htools,hsame,
  JsonValue.bool.inj hstore,JsonValue.bool.inj hstream,JsonValue.bool.inj hparallel,
  Option.map_injective strings_injective hincludes,Option.map_injective Metadata.toValue_injective hmetadata,
  Option.map_injective ServiceTier.toValue_injective htier,
  Option.map_injective string_injective hcache,ResponsesText.toValue_injective htext,
  Option.map_injective ResponsesReasoning.toValue_injective hreasoning⟩

end CursorProxy.PromptSignatures
