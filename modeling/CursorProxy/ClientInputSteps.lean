import CursorProxy.ClientInputs

namespace CursorProxy.ClientInputs
open CursorProxy.JsonValues JsonNumbers XmlElements FieldMaps McpArgValues IntegerDoubles

variable {env:AdaptEnv} {obj other:Members} {key field:String} {value result:JsonValue}

theorem hasNonemptyStr_congr (h:get key obj=get key other) : hasNonemptyStr obj key=hasNonemptyStr other key:=by
 unfold hasNonemptyStr
 rw [h]

theorem hasNonemptyStr_text {text:String} (h:get key obj=some (.string text))
 (hne:text ≠ "") : hasNonemptyStr obj key=true:=by
 unfold hasNonemptyStr
 rw [h]
 exact bne_iff_ne.mpr hne

theorem get_insertIfEmpty_self (key:String) (value:Option JsonValue) (obj:Members) :
 get key (insertIfEmpty key value obj) = if hasNonemptyStr obj key then get key obj else value.or (get key obj):=by
 unfold insertIfEmpty
 split_ifs with hfull
 · rfl
 · cases value with
   | none=>rfl
   | some value=>rw [get_insert_self,Option.some_or]

theorem get_insertIfEmpty_ne (h:field≠key) (value:Option JsonValue) (obj:Members) :
 get field (insertIfEmpty key value obj)=get field obj:=by
 unfold insertIfEmpty
 split_ifs with hfull
 · rfl
 · cases value with
   | none=>rfl
   | some value=>rw [get_insert_ne h]

theorem insertIfEmpty_same {value:Option JsonValue} (h:hasNonemptyStr obj key=true ∨ value=none ∨ get key obj=value) :
 insertIfEmpty key value obj=obj:=by
 unfold insertIfEmpty
 split_ifs with hfull
 · rfl
 · cases value with
   | none=>rfl
   | some value=>
    obtain hfull' | hnone | hsame:=h
    · exact absurd hfull' hfull
    · exact nomatch hnone
    · exact insert_same hsame

theorem hasNonemptyStr_insertIfEmpty {text:String} (hne:text ≠ "") :
 hasNonemptyStr (insertIfEmpty key (some (.string text)) obj) key=true:=by
 by_cases hfull:hasNonemptyStr obj key=true
 · rw [insertIfEmpty_same (.inl hfull),hfull]
 · refine hasNonemptyStr_text ?_ hne
   rw [get_insertIfEmpty_self,if_neg hfull,Option.some_or]

theorem insertIfEmpty_idempotent {text:String} (hne:text ≠ "") :
 insertIfEmpty key (some (.string text)) (insertIfEmpty key (some (.string text)) obj) =
  insertIfEmpty key (some (.string text)) obj :=
 insertIfEmpty_same (.inl (hasNonemptyStr_insertIfEmpty hne))

theorem copyAliasIfMissing_same {aliases:List String}
 (h:∀ name∈aliases,get name obj=none) : copyAliasIfMissing key aliases obj=obj:=by
 unfold copyAliasIfMissing
 rw [List.findSome?_eq_none_iff.mpr h,ite_self]

theorem copyAliases_same {table:List (String×List String)}
 (h:∀ row∈table,∀ name∈row.2,get name obj=none) : copyAliases table obj=obj:=by
 unfold copyAliases
 induction table with
 | nil=>rfl
 | cons row table ih=>
  rw [List.foldl_cons,copyAliasIfMissing_same (h row List.mem_cons_self)]
  exact ih fun row hrow=>h row (List.mem_cons_of_mem _ hrow)

theorem get_retainObjectKeys (allowed:List String) (field:String) (obj:Members) :
 get field (retainObjectKeys allowed obj) = if allowed.contains field then get field obj else none :=
 get_retain ..

theorem get_renameField_ne {name:String} (hkey:field≠key) (hname:field≠name)
 (obj:Members) : get field (renameField key name obj)=get field obj:=by
 unfold renameField
 split
 · rw [get_insert_ne hkey,get_remove_ne hname]
 · rfl

theorem get_renameField_old {name:String} (h:name≠key) (obj:Members) : get name (renameField key name obj)=none:=by
 unfold renameField
 split
 · rw [get_insert_ne h,get_remove,if_pos rfl]
 · assumption

theorem renameField_same {name:String} (h:get name obj=none) : renameField key name obj=obj:=by
 unfold renameField
 rw [h]

/-- No alias of a table is a field of the schema. -/
def Separate (table:List (String×List String)) (allowed:List String) : Bool :=
 table.all fun row=>row.2.all fun name=>!allowed.contains name

theorem aliases_absent {table:List (String×List String)} {allowed:List String} (hseparate:Separate table allowed=true)
 (h:∀ field,allowed.contains field=false → get field obj=none) : ∀ row∈table,∀ name∈row.2,get name obj=none:=by
 intro row hrow name hname
 have hnot:=List.all_eq_true.mp (List.all_eq_true.mp hseparate row hrow) name hname
 exact h name (Bool.not_eq_true' _ ▸ hnot)

theorem retained_absent (allowed:List String) (obj:Members) :
 ∀ field,allowed.contains field=false → get field (retainObjectKeys allowed obj)=none:=by
 intro field hfield
 rw [get_retainObjectKeys,hfield]
 rfl

theorem adaptStrict_same {table:List (String×List String)} {allowed:List String} (hseparate:Separate table allowed=true)
 (h:∀ field,allowed.contains field=false → get field obj=none) : adaptStrict table allowed obj=obj:=by
 unfold adaptStrict
 rw [copyAliases_same (aliases_absent hseparate h)]
 exact retain_same h

theorem adaptStrict_idempotent {table:List (String×List String)} {allowed:List String}
 (hseparate:Separate table allowed=true) (obj:Members) :
 adaptStrict table allowed (adaptStrict table allowed obj)=adaptStrict table allowed obj :=
 adaptStrict_same hseparate (retained_absent allowed _)

theorem adaptEdit_idempotent (obj:Members) : adaptEdit (adaptEdit obj)=adaptEdit obj :=
 adaptStrict_idempotent (by decide) obj

theorem mapObjects_idempotent {adapt:Members → Members}
 (h:∀ item,adapt (adapt item)=adapt item) (items:List JsonValue) :
 mapObjects adapt (mapObjects adapt items)=mapObjects adapt items:=by
 induction items with
 | nil=>rfl
 | cons item items ih=>
  cases item with
  | object item=>rw [mapObjects,mapObjects,h,ih]
  | null | bool | number | string | array=>exact congrArg (List.cons _) ih

theorem get_adaptItems_ne (h:field≠key) (adapt:Members → Members) (obj:Members) :
 get field (adaptItems key adapt obj)=get field obj:=by
 unfold adaptItems
 split
 · rw [get_insert_ne h]
 · rfl

/-- Objects that an adaptation leaves as they are. -/
def ItemsSettled (adapt:Members → Members) (value:Option JsonValue) : Prop :=
 ∀ items,value=some (.array items) → mapObjects adapt items=items

theorem adaptItems_settled {adapt:Members → Members}
 (h:∀ item,adapt (adapt item)=adapt item) (key:String) (obj:Members) :
 ItemsSettled adapt (get key (adaptItems key adapt obj)):=by
 intro items hitems
 unfold adaptItems at hitems
 split at hitems
 · rw [get_insert_self] at hitems
   rw [← JsonValue.array.inj (Option.some.inj hitems),mapObjects_idempotent h]
 · rename_i hother
   exact absurd hitems (hother items)

theorem adaptItems_same {adapt:Members → Members} (h:ItemsSettled adapt (get key obj)) :
 adaptItems key adapt obj=obj:=by
 unfold adaptItems
 split
 · rename_i items hitems
   rw [h items hitems]
   exact insert_same hitems
 · rfl

theorem adaptMultiEdit_idempotent (obj:Members) : adaptMultiEdit (adaptMultiEdit obj)=adaptMultiEdit obj:=by
 have hitem:∀ item,adaptEditItem (adaptEditItem item)=adaptEditItem item :=
  adaptStrict_idempotent (by decide)
 unfold adaptMultiEdit
 rw [adaptStrict_same (by decide),adaptItems_same (adaptItems_settled hitem _ _)]
 intro field hfield
 have hne:field ≠ "edits" := by
  rintro rfl
  exact absurd hfield (by decide)
 rw [get_adaptItems_ne hne]
 exact retained_absent _ _ field hfield

theorem trim_solid {text:Text} (h:∀ char∈text,isWhitespace char=false) : trim text=text:=by
 have hstart:trimStart text=text:=by
  unfold trimStart
  cases text with
  | nil=>rfl
  | cons char text=>
   exact List.dropWhile_cons_of_neg (Bool.eq_false_iff.mp (h char List.mem_cons_self))
 unfold trim
 rw [hstart]
 refine List.rdropWhile_eq_self_iff.mpr fun hne=>?_
 exact Bool.eq_false_iff.mp (h _ (List.getLast_mem hne))

theorem trim_natRepr (n:ℕ) : trim ((n:ℤ).repr).toList=((n:ℤ).repr).toList:=by
 refine trim_solid fun char hchar=>?_
 rw [toList_natRepr] at hchar
 have hdigit:=Nat.isDigit_of_mem_toDigits (by decide) (by decide) hchar
 unfold Char.isDigit at hdigit
 unfold isWhitespace
 rw [Bool.and_eq_true,decide_eq_true_eq,decide_eq_true_eq,ge_iff_le,UInt32.le_iff_toNat_le,
  UInt32.le_iff_toNat_le] at hdigit
 have hlow:48 ≤ char.toNat:=hdigit.1
 have hhigh:char.toNat ≤ 57:=hdigit.2
 simp only [Bool.or_eq_false_iff,Bool.and_eq_false_iff,decide_eq_false_iff_not,beq_eq_false_iff_ne]
 omega

theorem coerceWholeInteger_repr {n:ℤ} (hlow:-2 ^ 63 ≤ n) (hhigh:n<2 ^ 64) :
 coerceWholeInteger env (.number n.repr)=some (.number n.repr):=by
 unfold coerceWholeInteger
 cases n with
 | ofNat n=>
  have hsmall:n<2 ^ 64:=by
   simp only [Int.ofNat_eq_natCast] at hhigh
   omega
  simp only [Int.ofNat_eq_natCast,asU64_natRepr hsmall]
 | negSucc n=>
  have hsmall:n+1 ≤ 2 ^ 63:=by omega
  simp only [asU64_negRepr,asI64_negRepr hsmall]

theorem parseI64_bounds {text:Text} {n:ℤ} (h:parseI64 text=some n) : -2 ^ 63 ≤ n ∧ n<2 ^ 63:=by
 have hchecked:∀ signed:ℤ,
  (if -2 ^ 63 ≤ signed ∧ signed<2 ^ 63 then some signed else none)=some n →
   -2 ^ 63 ≤ n ∧ n<2 ^ 63:=by
  intro signed hsigned
  split_ifs at hsigned with hrange
  rw [← Option.some.inj hsigned]
  exact hrange
 obtain ⟨size,-,hsize⟩:=Option.bind_eq_some_iff.mp h
 exact hchecked _ hsize

theorem asU64_bounds {n:ℕ} (h:value.asU64=some n) : n<2 ^ 64:=by
 cases value with
 | number text=>exact of_decide_eq_true (Option.filter_eq_some_iff.mp h).2
 | null | bool | string | array | object=>exact nomatch h

theorem asI64_bounds {n:ℤ} (h:value.asI64=some n) : -2 ^ 63 ≤ n ∧ n<2 ^ 63:=by
 cases value with
 | number text=>
  unfold JsonValue.asI64 at h
  dsimp only at h
  split at h
  · obtain ⟨size,hsize,rfl⟩:=Option.map_eq_some_iff.mp h
    obtain ⟨digits,hdigits,hcast⟩:=Option.bind_eq_some_iff.mp hsize
    have hrange:=of_decide_eq_true (Option.filter_eq_some_iff.mp hdigits).2
    have hvalue:(digits:ℤ)=size:=Option.some.inj hcast
    omega
  · obtain ⟨size,hsize,rfl⟩:=Option.map_eq_some_iff.mp h
    have hrange:=of_decide_eq_true (Option.filter_eq_some_iff.mp hsize).2
    simp only [Int.ofNat_eq_natCast]
    omega
 | null | bool | string | array | object=>exact nomatch h

theorem coerceWholeInteger_integer (h:coerceWholeInteger env value=some result) :
 ∃ n:ℤ, -2 ^ 63 ≤ n ∧ n<2 ^ 64 ∧ result=.number n.repr:=by
 unfold coerceWholeInteger at h
 split at h
 · rename_i u hu
   have hsmall:=asU64_bounds hu
   exact ⟨u,by omega,by omega,(Option.some.inj h).symm⟩
 · split at h
   · rename_i i hi
     have hrange:=asI64_bounds hi
     exact ⟨i,hrange.1,by omega,(Option.some.inj h).symm⟩
   · split at h
     · obtain ⟨n,-,hn⟩:=Option.bind_eq_some_iff.mp h
       split_ifs at hn with hrange
       exact ⟨min n (2 ^ 63-1),by omega,by omega,(Option.some.inj hn).symm⟩
     · obtain ⟨text,-,htext⟩:=Option.bind_eq_some_iff.mp h
       obtain ⟨n,hn,rfl⟩:=Option.map_eq_some_iff.mp htext
       have hrange:=parseI64_bounds hn
       exact ⟨n,hrange.1,by omega,rfl⟩

theorem coerceWholeInteger_again (h:coerceWholeInteger env value=some result) :
 coerceWholeInteger env result=some result:=by
 obtain ⟨n,hlow,hhigh,rfl⟩:=coerceWholeInteger_integer h
 exact coerceWholeInteger_repr hlow hhigh

def Coerced (env:AdaptEnv) (value:Option JsonValue) : Prop :=
 value.bind (coerceWholeInteger env)=value

theorem coerced_bind (value:Option JsonValue) : Coerced env (value.bind (coerceWholeInteger env)):=by
 unfold Coerced
 cases hvalue:value.bind (coerceWholeInteger env) with
 | none=>rfl
 | some result=>
  obtain ⟨value,-,hresult⟩:=Option.bind_eq_some_iff.mp hvalue
  exact coerceWholeInteger_again hresult

theorem Coerced.filter {value:Option JsonValue} (h:Coerced env value)
 (keep:JsonValue → Bool) : Coerced env (value.filter keep):=by
 unfold Coerced at h ⊢
 cases value with
 | none=>rfl
 | some value=>
  rw [Option.filter_some]
  split_ifs
  · exact h
  · rfl

theorem get_coerceIntegerField (key field:String) (obj:Members) :
 get field (coerceIntegerField env key obj) =
  if field=key then (get key obj).bind (coerceWholeInteger env) else get field obj:=by
 unfold coerceIntegerField
 cases hget:get key obj with
 | none=>
  split_ifs with hsame
  · rw [hsame,hget]
    rfl
  · rfl
 | some value=>
  dsimp only [Option.bind_some]
  cases hinteger:coerceWholeInteger env value with
  | none=>exact get_remove ..
  | some integer=>exact get_insert ..

theorem get_coerceIntegerFields (keys:List String) (field:String) (obj:Members) :
 get field (coerceIntegerFields env keys obj) =
  if field∈keys then (get field obj).bind (coerceWholeInteger env) else get field obj:=by
 unfold coerceIntegerFields
 induction keys generalizing obj with
 | nil=>rfl
 | cons key keys ih=>
  rw [List.foldl_cons,ih,get_coerceIntegerField]
  by_cases hkey:field=key
  · rw [if_pos hkey,if_pos (List.mem_cons.mpr (.inl hkey)),← hkey]
    split_ifs
    · exact coerced_bind _
    · rfl
  · rw [if_neg hkey]
    by_cases hmem:field∈keys
    · rw [if_pos hmem,if_pos (List.mem_cons_of_mem _ hmem)]
    · rw [if_neg hmem,if_neg fun h=>(List.mem_cons.mp h).elim hkey hmem]

theorem coerced_field {keys:List String} (hfield:field∈keys) (obj:Members) :
 Coerced env (get field (coerceIntegerFields env keys obj)):=by
 rw [get_coerceIntegerFields,if_pos hfield]
 exact coerced_bind _

theorem coerceIntegerFields_same {keys:List String}
 (h:∀ key∈keys,Coerced env (get key obj)) : coerceIntegerFields env keys obj=obj:=by
 unfold coerceIntegerFields
 induction keys with
 | nil=>rfl
 | cons key keys ih=>
  have hfirst:coerceIntegerField env key obj=obj:=by
   have hcoerced:=h key List.mem_cons_self
   unfold Coerced at hcoerced
   unfold coerceIntegerField
   cases hget:get key obj with
   | none=>rfl
   | some value=>
    rw [hget,Option.bind_some] at hcoerced
    dsimp only
    rw [hcoerced]
    exact insert_same hget
  rw [List.foldl_cons,hfirst]
  exact ih fun key hkey=>h key (List.mem_cons_of_mem _ hkey)

theorem get_dropField_self (key:String) (invalid:JsonValue → Bool) (obj:Members) :
 get key (dropField key invalid obj)=(get key obj).filter fun value=>!invalid value:=by
 unfold dropField
 cases hget:get key obj with
 | none=>
  rw [Option.any_none,if_neg Bool.false_ne_true,hget]
  rfl
 | some value=>
  rw [Option.any_some,Option.filter_some]
  cases invalid value with
  | false=>exact hget
  | true=>
   rw [if_pos rfl,get_remove,if_pos rfl]
   rfl

theorem get_dropField_ne (h:field≠key) (invalid:JsonValue → Bool) (obj:Members) :
 get field (dropField key invalid obj)=get field obj:=by
 unfold dropField
 split_ifs
 · exact get_remove_ne h _
 · rfl

theorem dropField_same {invalid:JsonValue → Bool} (h:get key obj=(get key obj).filter fun value=>!invalid value) :
 dropField key invalid obj=obj:=by
 unfold dropField
 refine if_neg fun hany=>?_
 cases hget:get key obj with
 | none=>
  rw [hget] at hany
  exact nomatch hany
 | some value=>
  rw [hget,Option.any_some] at hany
  rw [hget,Option.filter_some,hany] at h
  exact nomatch h

structure ReadSettled (env:AdaptEnv) (obj:Members) : Prop where
 offset : Coerced env (get "offset" obj)
 limit : Coerced env (get "limit" obj)
 offsetKept : get "offset" obj = (get "offset" obj).filter fun value=>!value.asI64.any (· < 0)
 limitKept : get "limit" obj=(get "limit" obj).filter fun value=>!value.asI64.any (· ≤ 0)

theorem filter_filter_self (value:Option JsonValue) (keep:JsonValue → Bool) :
 value.filter keep=(value.filter keep).filter keep:=by
 cases value with
 | none=>rfl
 | some value=>
  rw [Option.filter_some]
  split_ifs with h
  · rw [Option.filter_some,if_pos h]
  · rfl

theorem adaptRead_settled (obj:Members) : ReadSettled env (adaptRead env obj):=by
 have hoffset:get "offset" (adaptRead env obj) =
  (get "offset" (coerceIntegerFields env ["offset","limit"] obj)).filter
   fun value=>!value.asI64.any (· < 0):=by
  unfold adaptRead normalizeReadRange
  rw [get_dropField_ne (by decide),get_dropField_self]
 have hlimit:get "limit" (adaptRead env obj) =
  (get "limit" (coerceIntegerFields env ["offset","limit"] obj)).filter
   fun value=>!value.asI64.any (· ≤ 0):=by
  unfold adaptRead normalizeReadRange
  rw [get_dropField_self,get_dropField_ne (by decide)]
 refine ⟨?_,?_,?_,?_⟩
 · rw [hoffset]
   exact (coerced_field (by decide) obj).filter _
 · rw [hlimit]
   exact (coerced_field (by decide) obj).filter _
 · rw [hoffset]
   exact filter_filter_self ..
 · rw [hlimit]
   exact filter_filter_self ..

theorem ReadSettled.congr (h:ReadSettled env obj) (hoffset:get "offset" other=get "offset" obj)
 (hlimit:get "limit" other=get "limit" obj) : ReadSettled env other where
 offset := hoffset ▸ h.offset
 limit := hlimit ▸ h.limit
 offsetKept := hoffset ▸ h.offsetKept
 limitKept := hlimit ▸ h.limitKept

theorem ReadSettled.same (h:ReadSettled env obj) : adaptRead env obj=obj:=by
 have hcoerced:coerceIntegerFields env ["offset","limit"] obj=obj:=by
  refine coerceIntegerFields_same fun key hkey=>?_
  obtain rfl | hkey:=List.mem_cons.mp hkey
  · exact h.offset
  · rw [List.mem_singleton.mp hkey]
    exact h.limit
 unfold adaptRead normalizeReadRange
 rw [hcoerced,dropField_same h.offsetKept,dropField_same h.limitKept]

/-- A text that is an encoded value, or begins like one. -/
def wrapped (env:AdaptEnv) (text:Text) : Bool :=
 (decodeProtobufValueBytes env.toMcpEnv (SseEvents.bytesOf text)).isSome ||
  (SseEvents.bytesOf text).head?==some 0x1a

theorem bytesOf_trim_length (text:Text) : (SseEvents.bytesOf (trim text)).length ≤ (SseEvents.bytesOf text).length:=by
 have hstart:trimStart text <:+ text:=List.dropWhile_suffix _
 have hfront:trim text <+: trimStart text := List.rdropWhile_prefix isWhitespace _
 obtain ⟨after,hafter⟩:=hfront
 obtain ⟨before,hbefore⟩:=hstart
 have houter:(SseEvents.bytesOf text).length =
  (SseEvents.bytesOf before).length+(SseEvents.bytesOf (trimStart text)).length:=by
  rw [← List.length_append,← SseEvents.bytesOf_append,hbefore]
 have hinner:(SseEvents.bytesOf (trimStart text)).length =
  (SseEvents.bytesOf (trim text)).length+(SseEvents.bytesOf after).length:=by
  rw [← List.length_append,← SseEvents.bytesOf_append,hafter]
 omega

theorem sanitizeSpawnString_some {raw text:Text} (h:sanitizeSpawnString env raw=some text) :
 trim text=text ∧ text≠[] ∧ (SseEvents.bytesOf text).length ≤ (SseEvents.bytesOf raw).length:=by
 fun_induction sanitizeSpawnString env raw with
 | case1 raw inner hdecoded ih=>
  obtain ⟨htrim,hne,hlength⟩:=ih h
  exact ⟨htrim,hne,hlength.trans (decodedText_shorter env hdecoded).le⟩
 | case2 raw=>exact nomatch h
 | case3 raw=>exact nomatch h
 | case4 raw=>exact nomatch h
 | case5 raw _ _ hne=>
  rw [← Option.some.inj h]
  exact ⟨LiveRunKeys.trim_trim raw,hne,bytesOf_trim_length raw⟩

theorem sanitizeSpawnString_trimmed {text:Text} (htrim:trim text=text) (hne:text≠[]) :
 sanitizeSpawnString env text=some text ↔ wrapped env text=false:=by
 unfold wrapped
 rw [sanitizeSpawnString]
 split
 · rename_i inner hdecoded
   rw [hdecoded]
   refine ⟨fun h=>?_,fun h=>by cases h⟩
   have hshorter:=decodedText_shorter env hdecoded
   have hlength:=(sanitizeSpawnString_some h).2.2
   omega
 · rename_i decoded hdecoded
   rw [hdecoded]
   exact ⟨fun h=>(by cases h),fun h=>(by cases h)⟩
 · rename_i hdecoded
   rw [hdecoded,htrim,if_neg hne,Option.isSome_none,Bool.false_or,beq_eq_false_iff_ne]
   split_ifs with hfirst
   · exact ⟨fun h=>(by cases h),fun h=>absurd hfirst h⟩
   · exact ⟨fun _=>hfirst,fun _=>rfl⟩

theorem nonemptyString_some {value:Option JsonValue} {text:Text}
 (h:nonemptyString env value=some text) : trim text=text ∧ text≠[]:=by
 obtain ⟨raw,-,hraw⟩:=Option.bind_eq_some_iff.mp h
 exact ⟨(sanitizeSpawnString_some hraw).1,(sanitizeSpawnString_some hraw).2.1⟩

theorem nonemptyString_textValue (text:Text) :
 nonemptyString env (some (textValue text))=sanitizeSpawnString env text:=by
 unfold nonemptyString textValue
 simp only [Option.bind_some,JsonValue.asStr,String.toList_ofList]

theorem ofList_ne_empty {text:Text} (h:text≠[]) : String.ofList text ≠ "" := by
 intro hempty
 refine h ?_
 rw [← String.toList_ofList (l := text),hempty]
 rfl

theorem taskIdString_again {id:Text} (h:taskIdString value=some id) : taskIdString (textValue id)=some id ∧ id≠[]:=by
 have htext:∀ text:Text,trim text=text → text≠[] → taskIdString (textValue text)=some text ∧ text≠[]:=by
  intro text htrim hne
  have hkept:Option.filter (fun text:Text=>text != [])
   (some (trim (String.ofList text).toList))=some text:=by
   rw [String.toList_ofList,htrim,Option.filter_some,if_pos (bne_iff_ne.mpr hne)]
  unfold taskIdString textValue
  simp only [JsonValue.asStr,Option.map_some,hkept,Option.orElse_eq_orElse,Option.orElse_some]
  exact ⟨trivial,hne⟩
 have hdigits:∀ n:ℕ,((n:ℤ).repr).toList≠[]:=by
  intro n
  rw [toList_natRepr]
  exact Nat.toDigits_ne_nil
 unfold taskIdString at h
 simp only [Option.orElse_eq_some] at h
 obtain hstr | ⟨-,hu | ⟨-,hi⟩⟩:=h
 · obtain ⟨hmap,hne⟩:=Option.filter_eq_some_iff.mp hstr
   obtain ⟨text,-,rfl⟩:=Option.map_eq_some_iff.mp hmap
   exact htext _ (LiveRunKeys.trim_trim _) (bne_iff_ne.mp hne)
 · obtain ⟨n,-,rfl⟩:=Option.map_eq_some_iff.mp hu
   exact htext _ (trim_natRepr n) (hdigits n)
 · obtain ⟨n,hn,rfl⟩:=Option.map_eq_some_iff.mp hi
   have hpositive:=of_decide_eq_true (Option.filter_eq_some_iff.mp hn).2
   obtain ⟨size,rfl⟩:=Int.eq_ofNat_of_zero_le hpositive
   exact htext _ (trim_natRepr size) (hdigits size)

def IdSettled (value:Option JsonValue) : Prop :=
 ∀ id,value.bind taskIdString=some id → value=some (textValue id)

theorem idSettled_textValue {id:Text} (h:taskIdString value=some id) : IdSettled (some (textValue id)):=by
 intro again hagain
 rw [Option.bind_some,(taskIdString_again h).1] at hagain
 rw [Option.some.inj hagain]

theorem get_canonicalTaskId_ne (h:field≠key) (obj:Members) : get field (canonicalTaskId key obj)=get field obj:=by
 unfold canonicalTaskId
 split
 · exact get_insert_ne h ..
 · rfl

theorem canonicalTaskId_settled (key:String) (obj:Members) : IdSettled (get key (canonicalTaskId key obj)):=by
 cases hid:(get key obj).bind taskIdString with
 | none=>
  have hkept:canonicalTaskId key obj=obj:=by
   unfold canonicalTaskId
   rw [hid]
  rw [hkept]
  intro id hsome
  rw [hid] at hsome
  exact nomatch hsome
 | some id=>
  obtain ⟨value,-,hvalue⟩:=Option.bind_eq_some_iff.mp hid
  have hnew:canonicalTaskId key obj=insert key (textValue id) obj:=by
   unfold canonicalTaskId
   rw [hid]
  rw [hnew,get_insert_self]
  exact idSettled_textValue hvalue

theorem canonicalTaskId_same (h:IdSettled (get key obj)) : canonicalTaskId key obj=obj:=by
 unfold canonicalTaskId
 split
 · rename_i id hid
   exact insert_same (h id hid)
 · rfl

theorem firstTaskId_settled (obj:Members) (id:Text) (h:firstTaskId obj=some id) :
 IdSettled (some (textValue id)) ∧ id≠[]:=by
 obtain ⟨ids,-,hids⟩:=Option.bind_eq_some_iff.mp h
 obtain ⟨value,-,hvalue⟩:=List.exists_of_findSome?_eq_some hids
 exact ⟨idSettled_textValue hvalue,(taskIdString_again hvalue).2⟩

theorem shellTaskId_settled (obj:Members) (id:Text) (h:shellTaskId obj=some id) :
 IdSettled (some (textValue id)) ∧ id≠[]:=by
 obtain ⟨value,-,hvalue⟩:=Option.bind_eq_some_iff.mp h
 exact ⟨idSettled_textValue hvalue,(taskIdString_again hvalue).2⟩

theorem candidate_settled {first second:Option Text} {id:Text}
 (hfirst:∀ id,first=some id → IdSettled (some (textValue id)) ∧ id≠[])
 (hsecond:∀ id,second=some id → IdSettled (some (textValue id)) ∧ id≠[])
 (h:(first <|> second)=some id) : IdSettled (some (textValue id)) ∧ id≠[]:=by
 rw [Option.orElse_eq_some] at h
 obtain h | ⟨-,h⟩:=h
 · exact hfirst id h
 · exact hsecond id h

theorem fillTaskId {candidate:Option Text} (hcandidate:∀ id,candidate=some id → IdSettled (some (textValue id)) ∧ id≠[])
 (hsettled:IdSettled (get key obj)) : IdSettled (get key (insertIfEmpty key (candidate.map textValue) obj)):=by
 rw [get_insertIfEmpty_self]
 split_ifs
 · exact hsettled
 · cases candidate with
   | none=>exact hsettled
   | some id=>exact (hcandidate id rfl).1

theorem fillTaskId_full (key:String) (obj:Members) {candidate:Option Text} (hcandidate:∀ id,candidate=some id → id≠[]) :
 hasNonemptyStr (insertIfEmpty key (candidate.map textValue) obj) key=true ∨ candidate=none:=by
 cases candidate with
 | none=>exact .inr rfl
 | some id=>exact .inl (hasNonemptyStr_insertIfEmpty (ofList_ne_empty (hcandidate id rfl)))

end CursorProxy.ClientInputs
