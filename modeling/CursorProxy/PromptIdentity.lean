import CursorProxy.PromptSignatures

/-! Objects whose keys stand in any order have one text exactly if they are the same up to the
order of the keys. -/
namespace CursorProxy.PromptIdentity
open JsonValues StableJson CodexReducer CodexRequests DelimitedWords PromptSignatures

/-- A number is written, and an object has each key once. -/
inductive Written : JsonValue → Prop where
 | null : Written .null
 | bool (value:Bool) : Written (.bool value)
 | number {text:String} (hne:text ≠ "")
  (hchars:∀ char∈text.toList,isNumberChar char=true) : Written (.number text)
 | string (text:String) : Written (.string text)
 | array {items:List JsonValue} (hitems:∀ item∈items,Written item) :
  Written (.array items)
 | object {members:List (String×JsonValue)} (hkeys:(members.map Prod.fst).Nodup)
  (hmembers:∀ member∈members,Written member.2) : Written (.object members)

/-- The same up to the order of the keys, at every depth. -/
inductive SameJson : JsonValue → JsonValue → Prop where
 | refl (value:JsonValue) : SameJson value value
 | trans {first second third:JsonValue} (h:SameJson first second)
  (h':SameJson second third) : SameJson first third
 | item (before after:List JsonValue) {value other:JsonValue} (h:SameJson value other) :
  SameJson (.array (before++value::after)) (.array (before++other::after))
 | member (before after:List (String×JsonValue)) (key:String) {value other:JsonValue}
  (h:SameJson value other) :
  SameJson (.object (before++(key,value)::after)) (.object (before++(key,other)::after))
 | order {members others:List (String×JsonValue)} (h:members.Perm others) :
  SameJson (.object members) (.object others)

variable {value other:JsonValue}

theorem SameJson.symm (h:SameJson value other) : SameJson other value:=by
 induction h with
 | refl value=>exact .refl value
 | trans _ _ ih ih'=>exact ih'.trans ih
 | item before after _ ih=>exact .item before after ih
 | member before after key _ ih=>exact .member before after key ih
 | order h=>exact .order h.symm

theorem SameJson.items {items others:List JsonValue} (h:List.Forall₂ SameJson items others) :
  ∀ before,SameJson (.array (before++items)) (.array (before++others)):=by
 induction h with
 | nil=>exact fun before=>.refl _
 | @cons item other items others hitem _ ih=>
  intro before
  refine (SameJson.item before items hitem).trans ?_
  have hrest:=ih (before++[other])
  rwa [List.append_assoc,List.append_assoc] at hrest

def SameMember (member other:String×JsonValue) : Prop :=
 member.1=other.1 ∧ SameJson member.2 other.2

variable {others:List (String×JsonValue)}

theorem SameJson.members {members:List (String×JsonValue)} (h:List.Forall₂ SameMember members others) :
  ∀ before,SameJson (.object (before++members)) (.object (before++others)):=by
 induction h with
 | nil=>exact fun before=>.refl _
 | @cons member other members others hmember _ ih=>
  intro before
  obtain ⟨key,value⟩:=member
  obtain ⟨key',value'⟩:=other
  obtain ⟨rfl,hvalue⟩:=hmember
  refine (SameJson.member before members key hvalue).trans ?_
  have hrest:=ih (before++[(key,value')])
  rwa [List.append_assoc,List.append_assoc] at hrest

theorem sortedTexts_perm {members others:List (String×Text)} (h:members.Perm others)
  (hkeys:(members.map Prod.fst).Nodup) : sortedTexts members=sortedTexts others:=by
 have hsorted:∀ texts:List (String×Text),(texts.insertionSort fun first second=>
   first.1 ≤ second.1).Pairwise fun first second=>first.1 ≤ second.1 := fun texts=>
  @List.pairwise_insertionSort _ (fun first second:String×Text=>first.1 ≤ second.1) _
   ⟨fun first second=>le_total first.1 second.1⟩ ⟨fun _ _ _=>le_trans⟩ texts
 have hperm:=fun texts : List (String×Text)=>
  List.perm_insertionSort (fun first second=>first.1 ≤ second.1) texts
 have hsame:=((hperm members).trans h).trans (hperm others).symm
 unfold sortedTexts
 refine congrArg (List.map _) (hsame.eq_of_pairwise ?_ (hsorted members) (hsorted others))
 intro first second hfirst hsecond hle hge
 have hmem:=(hperm members).subset hfirst
 have hmem':=h.symm.subset ((hperm others).subset hsecond)
 exact List.inj_on_of_nodup_map hkeys hmem hmem' (le_antisymm hle hge)

theorem stableJson_perm {members:List (String×JsonValue)} (h:members.Perm others) (hkeys:(members.map Prod.fst).Nodup) :
  stableJson (.object members)=stableJson (.object others):=by
 have htexts:sortedTexts (stableMembers members)=sortedTexts (stableMembers others):=by
  rw [stableMembers_eq,stableMembers_eq]
  refine sortedTexts_perm (h.map _) ?_
  rw [List.map_map]
  exact hkeys
 rw [stableJson,stableJson,htexts]

theorem SameJson.stableJson (h:SameJson value other) :
  Written value → Written other ∧ stableJson value=stableJson other:=by
 induction h with
 | refl value=>exact fun hvalue=>⟨hvalue,rfl⟩
 | trans _ _ ih ih'=>
  intro hvalue
  obtain ⟨hsecond,htext⟩:=ih hvalue
  obtain ⟨hthird,htext'⟩:=ih' hsecond
  exact ⟨hthird,htext.trans htext'⟩
 | @item before after value other _ ih=>
  rintro (_ | _ | _ | _ | hitems)
  have hmiddle:value∈before++value::after:=by simp
  obtain ⟨hother,htext⟩:=ih (hitems value hmiddle)
  constructor
  · refine .array fun item hitem=>?_
    rcases List.mem_append.mp hitem with hbefore | hrest
    · exact hitems item (List.mem_append_left _ hbefore)
    · rcases List.mem_cons.mp hrest with rfl | hafter
      · exact hother
      · exact hitems item (List.mem_append_right _ (List.mem_cons_of_mem value hafter))
  · rw [stableJson_array,stableJson_array,List.map_append,List.map_append,List.map_cons,List.map_cons,htext]
 | @member before after key value other _ ih=>
  rintro (_ | _ | _ | _ | _ | ⟨hkeys,hmembers⟩)
  have hmiddle:(key,value)∈before++(key,value)::after:=by simp
  obtain ⟨hother,htext⟩:=ih (hmembers _ hmiddle)
  constructor
  · refine .object ?_ fun entry hentry=>?_
    · rw [List.map_append,List.map_cons] at hkeys ⊢
      exact hkeys
    · rcases List.mem_append.mp hentry with hbefore | hrest
      · exact hmembers entry (List.mem_append_left _ hbefore)
      · rcases List.mem_cons.mp hrest with rfl | hafter
        · exact hother
        · exact hmembers entry (List.mem_append_right _ (List.mem_cons_of_mem _ hafter))
  · rw [StableJson.stableJson,StableJson.stableJson,stableMembers_eq,stableMembers_eq,
     List.map_append,List.map_append,List.map_cons,List.map_cons,htext]
 | order h=>
  rintro (_ | _ | _ | _ | _ | ⟨hkeys,hmembers⟩)
  refine ⟨.object ((h.map Prod.fst).nodup_iff.mp hkeys) fun entry hentry=>?_,
   stableJson_perm h hkeys⟩
  exact hmembers entry (h.symm.subset hentry)

theorem exists_forall₂ {α β:Type*} {related:α → β → Prop} {good:β → Prop} {items:List α}
  (h:∀ item∈items,∃ other,good other ∧ related item other) :
  ∃ others,(∀ other∈others,good other) ∧ List.Forall₂ related items others:=by
 induction items with
 | nil=>exact ⟨[],nofun,.nil⟩
 | cons item items ih=>
  obtain ⟨other,hgood,hrelated⟩:=h item List.mem_cons_self
  obtain ⟨others,hothers,hrest⟩:=ih fun item hitem=>h item (List.mem_cons_of_mem _ hitem)
  exact ⟨other::others,List.forall_mem_cons.mpr ⟨hgood,hothers⟩,.cons hrelated hrest⟩

theorem sameMember_keys {members:List (String×JsonValue)}
  (h:List.Forall₂ SameMember members others) : members.map Prod.fst=others.map Prod.fst:=by
 induction h with
 | nil=>rfl
 | cons hmember _ ih=>rw [List.map_cons,List.map_cons,hmember.1,ih]

theorem held_of_written (h:Written value) : ∃ held,Held held ∧ SameJson value held:=by
 induction h with
 | null=>exact ⟨.null,.null,.refl _⟩
 | bool value=>exact ⟨.bool value,.bool value,.refl _⟩
 | number hne hchars=>exact ⟨.number _,.number hne hchars,.refl _⟩
 | string text=>exact ⟨.string text,.string text,.refl _⟩
 | array _ ih=>
  obtain ⟨others,hothers,hsame⟩:=exists_forall₂ ih
  exact ⟨.array others,.array hothers,SameJson.items hsame []⟩
 | @object members hkeys _ ih=>
  have hmember:∀ member∈members,∃ other:String×JsonValue,Held other.2 ∧ SameMember member other:=by
   intro member hmem
   obtain ⟨held,hheld,hsame⟩:=ih member hmem
   exact ⟨(member.1,held),hheld,rfl,hsame⟩
  obtain ⟨others,hothers,hsame⟩:=exists_forall₂ hmember
  rw [sameMember_keys hsame] at hkeys
  have hperm:=List.perm_insertionSort (fun first second:String×JsonValue=>first.1 ≤ second.1) others
  have hsorted:=@List.pairwise_insertionSort _ (fun first second:String×JsonValue=>first.1 ≤ second.1) _
   ⟨fun first second=>le_total first.1 second.1⟩ ⟨fun _ _ _=>le_trans⟩ others
  generalize others.insertionSort (fun first second=>first.1 ≤ second.1)=sorted
   at hperm hsorted
  have hdistinct:=List.pairwise_map.mp ((hperm.map Prod.fst).nodup_iff.mpr hkeys)
  have hstrict:(sorted.map Prod.fst).Pairwise (· < ·) :=
   List.pairwise_map.mpr (hsorted.imp₂ (fun _ _ hle hne=>lt_of_le_of_ne hle hne) hdistinct)
  refine ⟨.object sorted,.object hstrict fun member hmem=>?_,?_⟩
  · exact hothers member (hperm.subset hmem)
  · exact (SameJson.members hsame []).trans (.order hperm.symm)

theorem stableJson_eq_iff (h:Written value) (h':Written other) :
  stableJson value=stableJson other ↔ SameJson value other:=by
 constructor
 · intro htext
   obtain ⟨held,hheld,hsame⟩:=held_of_written h
   obtain ⟨held',hheld',hsame'⟩:=held_of_written h'
   rw [(hsame.stableJson h).2,(hsame'.stableJson h').2] at htext
   obtain rfl:=stableJson_injective hheld hheld' htext
   exact hsame.trans hsame'.symm
 · exact fun hsame=>(hsame.stableJson h).2

def requestKeys : List String := "input" :: promptKeys

/-- What a request is written as: fields of a request, each at most once, in any order. -/
structure RequestObject where
 members : List (String×JsonValue)
 fields : ∀ member∈members,member.1∈requestKeys
 distinct : (members.map Prod.fst).Nodup
 written : ∀ member∈members,member.1 ≠ "input" → Written member.2

namespace RequestObject

def prompt (request:RequestObject) : List (String×JsonValue) :=
 request.members.filter fun entry=>entry.1 ≠ "input"

def signature (request:RequestObject) : Text :=
 let sorted:=request.prompt.insertionSort fun first second=>first.1 ≤ second.1
 '\x7b' :: joined ',' (sorted.map signatureText)++['\x7d']

end RequestObject

theorem requestKeys_plain : ∀ key∈requestKeys,quote key = '"' :: key.toList++['"'] := by decide

theorem written_of_held (h:Held value) : Written value:=by
 induction h with
 | null=>exact .null
 | bool value=>exact .bool value
 | number hne hchars=>exact .number hne hchars
 | string text=>exact .string text
 | array _ ih=>exact .array ih
 | object hkeys _ ih=>exact .object hkeys.nodup ih

namespace RequestObject

theorem prompt_written (request:RequestObject) : Written (.object request.prompt):=by
 refine .object (request.distinct.sublist (List.filter_sublist.map _)) fun member hmem=>?_
 obtain ⟨hmem,hkey⟩:=List.mem_filter.mp hmem
 exact request.written member hmem (of_decide_eq_true hkey)

theorem signature_eq (request:RequestObject) : request.signature=stableJson (.object request.prompt):=by
 have htexts:(request.prompt.insertionSort fun first second=>first.1 ≤ second.1).map
   signatureText=sortedTexts (stableMembers request.prompt):=by
  have hsort:=List.map_insertionSort (fun first second:String×JsonValue=>
    first.1 ≤ second.1) (fun first second:String×Text=>first.1 ≤ second.1)
   (fun member=>(member.1,stableJson member.2)) request.prompt fun _ _ _ _=>Iff.rfl
  unfold sortedTexts
  rw [stableMembers_eq,← hsort,List.map_map]
  refine List.map_congr_left fun member hmem=>?_
  have hplain:=requestKeys_plain member.1 (request.fields member (List.mem_of_mem_filter
   ((List.perm_insertionSort _ request.prompt).subset hmem)))
  unfold signatureText
  dsimp only [Function.comp_apply]
  rw [hplain,List.cons_append,List.append_assoc,List.cons_append]
  rfl
 unfold signature
 dsimp only
 rw [htexts,stableJson]

end RequestObject

def requestObject (body:ResponsesRequest) : RequestObject where
 members := present body.fields
 fields:=by
  have hkeys:∀ key∈body.fields.map Prod.fst,key∈requestKeys:=by
   change ∀ key∈["client_metadata","include","input","instructions","model",
    "parallel_tool_calls","prompt_cache_key","reasoning","service_tier","store","stream",
    "text","tool_choice","tools"],key∈requestKeys
   decide
  exact fun member hmem=>
   hkeys member.1 ((present_keys body.fields).subset (List.mem_map_of_mem hmem))
 distinct:=by
  refine List.Nodup.sublist (present_keys body.fields) ?_
  change ["client_metadata","include","input","instructions","model",
   "parallel_tool_calls","prompt_cache_key","reasoning","service_tier","store","stream",
   "text","tool_choice","tools"].Nodup
  decide
 written:=by
  intro member hmem hkey
  have hfilter:(present body.fields).filter (fun entry=>entry.1 ≠ "input") =
    present body.promptFields := present_filter body.fields fun key=>key ≠ "input"
  have hprompt:member∈(present body.fields).filter fun entry=>entry.1 ≠ "input" :=
   List.mem_filter.mpr ⟨hmem,decide_eq_true hkey⟩
  rw [hfilter] at hprompt
  cases (prompt_held body) with
  | object _ hmembers=>exact written_of_held (hmembers member hprompt)

/-- Two requests have one signature exactly if they agree in every field but the input, up to the
order of the keys. -/
theorem signature_identifies_prompt :
    (∀ request other : RequestObject,request.signature=other.signature ↔
      SameJson (.object request.prompt) (.object other.prompt)) ∧
    ∀ body:ResponsesRequest,promptSignature body=(requestObject body).signature:=by
  refine ⟨fun request other=>?_,fun body=>rfl⟩
  rw [request.signature_eq,other.signature_eq]
  exact stableJson_eq_iff request.prompt_written other.prompt_written

end CursorProxy.PromptIdentity
