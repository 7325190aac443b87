import CursorProxy.JsonNumbers
import CursorProxy.SandToolParts

namespace CursorProxy.SandToolReassembly
open JsonValues JsonNumbers XmlElements SandToolParts

variable {env:SandToolEnv}

/-- What is known of the reader of JSON texts: blank texts are refused, and behind an object text
that is read only blanks can follow. -/
structure Reads (env:SandToolEnv) : Prop where
 blank : ∀ text,text.all isWhitespace=true → env.fromStr text=none
 ends : ∀ text more members,env.fromStr (text++more)=some (.object members) →
  (env.fromStr text).isSome=true → more.all isWhitespace=true

def joined (env:SandToolEnv) (texts:List Text) : Text :=
 texts.foldl (mergeToolArgsText env) []

/-- Every update begins with the one before it. -/
def Growing (texts:List Text) : Prop := List.IsChain (· <+: ·) texts

/-- No fragment begins with what came before it, and none begins what came before it. -/
def Apart (texts:List Text) : Prop :=
 ∀ before fragment after,texts=before++fragment::after → before.flatten≠[] →
  fragment≠[] → ¬fragment <+: before.flatten ∧ ¬before.flatten <+: fragment

theorem merge_into_nil (update:Text) : mergeToolArgsText env [] update=update:=by
 cases update <;> rfl

variable {existing update:Text}

theorem merge_growing (h:existing <+: update) : mergeToolArgsText env existing update=update:=by
 unfold mergeToolArgsText
 split_ifs with hempty hfirst hsame hfront
 · obtain rfl:=List.isEmpty_iff.mp hempty
   exact List.prefix_nil.mp h
 · rfl
 · exact hsame.symm
 · rfl
 all_goals exact absurd (List.isPrefixOf_iff_prefix.mpr h) hfront

theorem merge_shorter (h:update <+: existing) : mergeToolArgsText env existing update=existing:=by
 unfold mergeToolArgsText
 split_ifs with hempty hfirst hsame hfront hback
 · rfl
 · obtain rfl:=List.isEmpty_iff.mp hfirst
   exact List.prefix_nil.mp h
 · rfl
 · exact h.eq_of_length_le (List.isPrefixOf_iff_prefix.mp hfront).length_le
 · rfl
 all_goals exact absurd (List.isPrefixOf_iff_prefix.mpr h) hback

theorem merge_apart (hshorter:¬update <+: existing) (hlonger:¬existing <+: update)
 (hread:(env.fromStr existing).isSome=true → env.fromStr update=none) :
 mergeToolArgsText env existing update=existing++update:=by
 unfold mergeToolArgsText
 split_ifs with hempty hfirst hsame hfront hback hboth
 · exact absurd (List.isEmpty_iff.mp hempty ▸ List.nil_prefix) hshorter
 · exact absurd (List.isEmpty_iff.mp hfirst ▸ List.nil_prefix) hlonger
 · exact absurd (hsame ▸ List.prefix_refl _) hlonger
 · exact absurd (List.isPrefixOf_iff_prefix.mp hfront) hlonger
 · exact absurd (List.isPrefixOf_iff_prefix.mp hback) hshorter
 · obtain ⟨hexisting,hupdate⟩:=Bool.and_eq_true_iff.mp hboth
   rw [hread hexisting] at hupdate
   exact (nomatch hupdate)
 · rfl

theorem merge_length (existing update:Text) :
 (mergeToolArgsText env existing update).length ≤ existing.length+update.length:=by
 unfold mergeToolArgsText
 split_ifs
 any_goals omega
 rw [List.length_append]

theorem foldl_merge_length (texts:List Text) (existing:Text) :
 (texts.foldl (mergeToolArgsText env) existing).length ≤ existing.length+texts.flatten.length:=by
 induction texts generalizing existing with
 | nil=>exact Nat.le_add_right _ _
 | cons text texts ih=>
  have hrest:=ih (mergeToolArgsText env existing text)
  have hfirst:=@merge_length env existing text
  rw [List.foldl_cons,List.flatten_cons,List.length_append]
  omega

theorem merge_full {existing update:Text}
 (h:(mergeToolArgsText env existing update).length=existing.length+update.length) :
 mergeToolArgsText env existing update=existing++update:=by
 unfold mergeToolArgsText at h ⊢
 split_ifs at h ⊢ with hempty hfirst hsame hfront hback hboth
 · rw [List.isEmpty_iff.mp hempty,List.append_nil]
 · rw [List.isEmpty_iff.mp hfirst,List.nil_append]
 · rw [List.length_eq_zero_iff.mp (by omega:update.length=0),List.append_nil]
 · rw [List.length_eq_zero_iff.mp (by omega:existing.length=0),List.nil_append]
 · rw [List.length_eq_zero_iff.mp (by omega:update.length=0),List.append_nil]
 · rw [List.length_eq_zero_iff.mp (by omega:existing.length=0),List.nil_append]
 · rfl

theorem foldl_merge_full (texts:List Text) (existing:Text)
 (h:(texts.foldl (mergeToolArgsText env) existing).length = existing.length+texts.flatten.length) :
 texts.foldl (mergeToolArgsText env) existing=existing++texts.flatten:=by
 induction texts generalizing existing with
 | nil=>exact (List.append_nil existing).symm
 | cons text texts ih=>
  have hrest:=@foldl_merge_length env texts (mergeToolArgsText env existing text)
  have hfirst:=@merge_length env existing text
  rw [List.foldl_cons,List.flatten_cons,List.length_append] at h
  have hmerge:=@merge_full env existing text (by omega)
  rw [hmerge,List.length_append] at hrest
  rw [List.foldl_cons,hmerge,ih (existing++text) (by
   rw [← hmerge,h,hmerge,List.length_append]
   omega),List.flatten_cons,List.append_assoc]

theorem foldl_growing (texts:List Text) (existing:Text) (h:List.IsChain (· <+: ·) (existing::texts)) :
 texts.foldl (mergeToolArgsText env) existing=(existing::texts).getLast (by simp):=by
 induction texts generalizing existing with
 | nil=>rfl
 | cons text texts ih=>
  obtain ⟨hfront,hrest⟩:=List.isChain_cons_cons.mp h
  rw [List.foldl_cons,merge_growing hfront,ih text hrest,List.getLast_cons_cons]

theorem joined_growing {texts:List Text} (h:Growing texts) (hne:texts≠[]) : joined env texts=texts.getLast hne:=by
 cases texts with
 | nil=>exact absurd rfl hne
 | cons text texts=>
  unfold joined
  rw [List.foldl_cons,merge_into_nil]
  exact foldl_growing texts text h

variable {members:List (String×JsonValue)}

theorem Reads.after_front (hreads:Reads env) {text more:Text}
 (hwhole:env.fromStr (text++update++more)=some (.object members))
 (hread:(env.fromStr text).isSome=true) : env.fromStr update=none:=by
 rw [List.append_assoc] at hwhole
 have hblank:=hreads.ends text (update++more) members hwhole hread
 rw [List.all_append,Bool.and_eq_true_iff] at hblank
 exact hreads.blank update hblank.1

theorem merge_cut (hreads:Reads env) {more:Text} (hwhole:env.fromStr (existing++update++more)=some (.object members))
 (happart:existing≠[] → update≠[] → ¬update <+: existing ∧ ¬existing <+: update) :
 mergeToolArgsText env existing update=existing++update:=by
 cases existing with
 | nil=>exact merge_into_nil update
 | cons char existing=>
  cases update with
  | nil=>exact (List.append_nil _).symm
  | cons char' update=>
   obtain ⟨hshorter,hlonger⟩:=happart (List.cons_ne_nil _ _) (List.cons_ne_nil _ _)
   exact merge_apart hshorter hlonger (hreads.after_front hwhole)

theorem joined_apart (hreads:Reads env) {texts:List Text}
 (hwhole:env.fromStr texts.flatten=some (.object members)) (h:Apart texts) : joined env texts=texts.flatten:=by
 suffices hfold : ∀ before after,texts=before++after →
  after.foldl (mergeToolArgsText env) before.flatten=texts.flatten from
  hfold [] texts rfl
 intro before after
 induction after generalizing before with
 | nil=>
  intro hsplit
  rw [hsplit,List.append_nil]
  rfl
 | cons text after ih=>
  intro hsplit
  have hmore:before.flatten++text++after.flatten=texts.flatten:=by
   rw [hsplit,List.flatten_append,List.flatten_cons,List.append_assoc]
  rw [List.foldl_cons,merge_cut hreads (hmore.symm ▸ hwhole)
   fun hbefore htext=>h before text after hsplit hbefore htext]
  have hnext:=ih (before++[text]) (by rw [hsplit,List.append_assoc]; rfl)
  rw [List.flatten_append,List.flatten_singleton] at hnext
  exact hnext

theorem merge_overlap {existing update:Text} (hexisting:existing≠[]) (hupdate:update≠[])
 (h:update <+: existing ∨ existing <+: update) :
 (mergeToolArgsText env existing update).length<existing.length+update.length:=by
 have hleft:=List.length_pos_iff.mpr hexisting
 have hright:=List.length_pos_iff.mpr hupdate
 rcases h with hshorter | hlonger
 · rw [merge_shorter hshorter]
   omega
 · rw [merge_growing hlonger]
   omega

theorem joined_fragments_iff (hreads:Reads env) {texts:List Text}
 (hwhole:env.fromStr texts.flatten=some (.object members)) : joined env texts=texts.flatten ↔ Apart texts:=by
 refine ⟨fun hjoined before fragment after hsplit hbefore hfragment=>?_,
  joined_apart hreads hwhole⟩
 by_contra hoverlap
 have hfront:(before.foldl (mergeToolArgsText env) []).length ≤ before.flatten.length:=by
  have hlength:=@foldl_merge_length env before []
  rw [List.length_nil,Nat.zero_add] at hlength
  exact hlength
 have hwholeLength:(joined env texts).length=texts.flatten.length:=by rw [hjoined]
 unfold joined at hwholeLength
 rw [hsplit,List.foldl_append,List.foldl_cons,List.flatten_append,List.flatten_cons,
  List.length_append,List.length_append] at hwholeLength
 have hrest:=@foldl_merge_length env after (mergeToolArgsText env (before.foldl (mergeToolArgsText env) []) fragment)
 have hstep:=@merge_length env (before.foldl (mergeToolArgsText env) []) fragment
 -- Nothing was lost up to the fragment, so that it overlaps with what was kept.
 have hkept:before.foldl (mergeToolArgsText env) []=before.flatten:=by
  have hkeptLength:(before.foldl (mergeToolArgsText env) []).length = ([] : Text).length+before.flatten.length:=by
   rw [List.length_nil]
   omega
  exact foldl_merge_full before [] hkeptLength
 rw [hkept] at hrest hwholeLength
 have hlost:=@merge_overlap env before.flatten fragment hbefore hfragment (by tauto)
 omega

inductive CallIdentity where
 | id (id:String)
 | index (index:ℤ)
 /-- The id on the first part, the index on all parts. -/
 | idThenIndex (id:String) (index:ℤ)
 | anonymous

structure CallPart where
 text : Text
 named : Bool
 /-- Whether it is the first part. -/
 opens : Bool
 done : Bool

structure ToolCall where
 name : String
 arguments : Text
 identity : CallIdentity
 parts : List CallPart

/-- The members of a part; an id, an index and a name may be missing. -/
def partMembers (text:String) (done:Bool) (id:Option String) (index:Option ℤ)
 (name:Option String) : List (String×JsonValue) :=
 [("args",.string text),("isComplete",.bool done)] ++ (id.toList.map fun id=>("toolCallId",.string id)) ++
  (index.toList.map fun index=>("toolIndex",.number index.repr)) ++
  (name.toList.map fun name=>("toolName",.string name))

namespace ToolCall

def texts (call:ToolCall) : List Text := call.parts.map CallPart.text

def partId (call:ToolCall) (part:CallPart) : Option String :=
 match call.identity with
 | .id id=>some id
 | .idThenIndex id _=>if part.opens then some id else none
 | .index _ | .anonymous=>none

def partIndex (call:ToolCall) : Option ℤ :=
 match call.identity with
 | .index index | .idThenIndex _ index=>some index
 | .id _ | .anonymous=>none

def partName (call:ToolCall) (part:CallPart) : Option String :=
 if part.named then some call.name else none

def frame (call:ToolCall) (part:CallPart) : JsonValue :=
 .object [("toolCallPart",.object (partMembers (String.ofList part.text) part.done
  (call.partId part) call.partIndex (call.partName part)))]

end ToolCall

structure WellFormed (env:SandToolEnv) (call:ToolCall) : Prop where
 name : call.name ≠ ""
 arguments : ∃ members,env.fromStr call.arguments=some (.object members)
 first : ∃ part more,call.parts=part::more ∧ part.opens=true ∧ part.named=true ∧
  ∀ later∈more,later.opens=false
 last : ∃ before part,call.parts=before++[part] ∧ part.done=true ∧ ∀ earlier∈before,earlier.done=false
 delivery : call.texts.flatten=call.arguments ∨ Growing call.texts ∧ call.texts.getLast?=some call.arguments
 identity : match call.identity with
  | .id id=>id ≠ ""
  | .index index=>asI32 index=some index
  | .idThenIndex id index=>id ≠ "" ∧ asI32 index=some index
  | .anonymous=>call.parts.length=1

def said (stream:List (ℕ×CallPart)) (number:ℕ) : List CallPart :=
 (stream.filter fun entry=>entry.1=number).map Prod.snd

/-- A stream of the parts of the calls by their numbers, each call's in their order. -/
structure Interleaves (calls:List ToolCall) (stream:List (ℕ×CallPart)) : Prop where
 inside : ∀ entry∈stream,entry.1<calls.length
 whole : ∀ (number:ℕ) call,calls[number]?=some call → said stream number=call.parts

def partFrames (calls:List ToolCall) (stream:List (ℕ×CallPart)) : List SandFrame :=
 stream.filterMap fun (number,part)=>
  (calls[number]?).map fun call=>.data (call.frame part)

def framesOf (calls:List ToolCall) (stream:List (ℕ×CallPart)) : List SandFrame :=
 partFrames calls stream++[.end]

/-- Exactly one event for each call, with its name and its arguments. -/
def Reassembled (env:SandToolEnv) (calls:List ToolCall) (stream:List (ℕ×CallPart)) : Prop :=
 ((toolEventsOf env (framesOf calls stream)).map fun event=>(event.name,some event.input)).Perm
  (calls.map fun call=>(call.name,env.fromStr call.arguments))

/-- Whether a call has begun and not come to its end. -/
def isOpen (calls:List ToolCall) (stream:List (ℕ×CallPart)) (number:ℕ) : Bool :=
 !(said stream number).isEmpty&&(calls[number]?).any fun call=>(said stream number).length<call.parts.length

def openCalls (calls:List ToolCall) (stream:List (ℕ×CallPart)) : List ℕ :=
 (List.range calls.length).filter (isOpen calls stream)

/-- The key of a call: its id, or else its index, or else the number of calls that are open where
it comes. -/
def key (calls:List ToolCall) (stream:List (ℕ×CallPart)) (number:ℕ) : String :=
 match (calls[number]?).map ToolCall.identity with
 | some (.id id) | some (.idThenIndex id _)=>id
 | some (.index index) => "sand_tool_index_" ++ index.repr
 | some .anonymous | none => "sand_tool_anon_" ++
  ((openCalls calls (stream.takeWhile fun entry=>entry.1≠number)).length+1).repr

structure Joinable (calls:List ToolCall) (stream:List (ℕ×CallPart)) : Prop where
 keys : ∀ number<calls.length,∀ other<calls.length,key calls stream number=key calls stream other → number=other
 oneKey : ∀ call∈calls,∀ id index,call.identity=.idThenIndex id index → call.parts.length=1
 texts : ∀ call∈calls,(Growing call.texts ∧ call.texts.getLast?=some call.arguments) ∨ Apart call.texts

section frame
variable {call:ToolCall} {part:CallPart}

def toolPartOf (call:ToolCall) (part:CallPart) : SandToolPart where
 id := (call.partId part).getD ""
 name := (call.partName part).getD ""
 args := some (.string (String.ofList part.text))
 done := part.done
 index := call.partIndex

theorem asI64_repr {index:ℤ} (h:asI32 index=some index) : JsonValue.asI64 (.number index.repr)=some index:=by
 unfold asI32 at h
 split_ifs at h with hrange
 cases index with
 | ofNat n=>
  have hsmall:n<2 ^ 63:=by
   have hupper:=hrange.2
   simp only [Int.ofNat_eq_natCast] at hupper
   omega
  exact asI64_natRepr hsmall
 | negSucc n=>
  have hsmall:n+1 ≤ 2 ^ 63:=by
   have hlower:=hrange.1
   omega
  exact asI64_negRepr hsmall

theorem toolPart_members (text:String) (done:Bool) (id:Option String) (index:Option ℤ)
 (name:Option String) (hindex:∀ value∈index,asI32 value=some value) :
 toolPart (.object (partMembers text done id index name)) =
  ⟨id.getD "",name.getD "",some (.string text),done,index⟩:=by
 have hdone:∀ value:Bool,(some (JsonValue.bool value)).bind JsonValue.asBool=some value :=
  fun _=>rfl
 cases index with
 | none=>
  cases id <;> cases name <;>
   simp [toolPart,partMembers,firstOf,JsonValue.get,idKeys,nameKeys,argsKeys,doneKeys,
    indexKeys,valueAsString,member,hdone]
 | some value=>
  have hvalue:=hindex value rfl
  have hread:=asI64_repr hvalue
  cases id <;> cases name <;>
   simp [toolPart,partMembers,firstOf,JsonValue.get,idKeys,nameKeys,argsKeys,doneKeys,
    indexKeys,valueAsString,member,hdone,hread,hvalue]

theorem collect_frame (h:WellFormed env call) (part:CallPart) :
 collectToolCallParts (call.frame part)=[toolPartOf call part]:=by
 have hindex:∀ value∈call.partIndex,asI32 value=some value:=by
  intro value hvalue
  have hidentity:=h.identity
  unfold ToolCall.partIndex at hvalue
  cases hcase:call.identity with
  | id _=>
   rw [hcase] at hvalue
   exact (nomatch hvalue)
  | anonymous=>
   rw [hcase] at hvalue
   exact (nomatch hvalue)
  | index index=>
   rw [hcase] at hvalue hidentity
   obtain rfl:=Option.some.inj hvalue
   exact hidentity
  | idThenIndex id index=>
   rw [hcase] at hvalue hidentity
   obtain rfl:=Option.some.inj hvalue
   exact hidentity.2
 have hkey : ["toolcallpart","tool_call_part"].contains (asciiLowercase "toolCallPart")=true:=by
  decide
 have hpart:=toolPart_members (String.ofList part.text) part.done (call.partId part)
  call.partIndex (call.partName part) hindex
 unfold ToolCall.frame
 rw [collectToolCallParts,collectMembers,collectMembers,if_pos hkey,collectToolPartValue,hpart]
 dsimp only
 rw [Option.isSome_some,Bool.or_true,if_pos rfl]
 rfl

theorem frame_quiet (call:ToolCall) (part:CallPart) :
 jsonError 8 (call.frame part)=false ∧ (call.frame part).get "result" = none ∧
  jsonIsTerminal (call.frame part)=false:=by
 have hget:∀ key,key ≠ "toolCallPart" → (call.frame part).get key=none:=by
  intro key hkey
  unfold ToolCall.frame JsonValue.get
  dsimp only
  rw [List.find?_cons_of_neg (by simpa using fun heq=>hkey heq.symm),List.find?_nil]
  rfl
 refine ⟨?_,hget _ (by decide),?_⟩
 · simp [jsonError,hget]
 · have hmarks:marksEnd (call.frame part)=false:=by simp [marksEnd,terminalKeys,hget]
   unfold ToolCall.frame at hmarks ⊢
   rw [jsonIsTerminal,hmarks,memberIsTerminal,memberIsTerminal]
   rfl

theorem queue_part (h:WellFormed env call) (part:CallPart) {s:SandInferenceStream} (hgoing:s.terminalEmitted=false) :
 s.queueFrame env (.data (call.frame part)) =
  ⟨(ingestToolCallPart env s.tools (toolPartOf call part)).1,false,
   s.toolEvents++(ingestToolCallPart env s.tools (toolPartOf call part)).2.toList⟩:=by
 obtain ⟨herror,hresult,hterminal⟩:=frame_quiet call part
 change s.queueJsonValue env (call.frame part)=_
 unfold SandInferenceStream.queueJsonValue eventsFromJsonWithState
 rw [hgoing,herror,hresult,Option.getD_none]
 dsimp only
 rw [hterminal,collect_frame h]
 simp only [Bool.false_eq_true,if_false,ingestToolCallParts,List.append_nil]

variable {before after:List CallPart}

theorem WellFormed.done_iff (h:WellFormed env call)
 (hsplit:call.parts=before++part::after) : part.done=true ↔ after=[]:=by
 obtain ⟨earlier,last,hlast,hdone,hopen⟩:=h.last
 rw [hsplit] at hlast
 cases after with
 | nil=>
  obtain ⟨-,hsame⟩:=List.append_inj' hlast rfl
  obtain rfl:=List.singleton_inj.mp hsame
  exact iff_of_true hdone rfl
 | cons next after=>
  have hdrop:=congrArg List.dropLast hlast
  rw [List.dropLast_concat,List.dropLast_append_of_ne_nil (List.cons_ne_nil _ _)] at hdrop
  have hmem:part∈earlier:=by
   rw [← hdrop]
   exact List.mem_append_right _ List.mem_cons_self
  rw [hopen part hmem]
  exact iff_of_false Bool.false_ne_true (List.cons_ne_nil _ _)

theorem WellFormed.opens_iff (h:WellFormed env call)
 (hsplit:call.parts=before++part::after) : part.opens=true ↔ before=[]:=by
 obtain ⟨first,more,hfirst,hopens,-,hlater⟩:=h.first
 rw [hsplit] at hfirst
 cases before with
 | nil=>
  obtain ⟨rfl,-⟩:=List.cons.inj hfirst
  exact iff_of_true hopens rfl
 | cons head before=>
  obtain ⟨-,hmore⟩:=List.cons.inj hfirst
  have hmem:part∈more:=by
   rw [← hmore]
   exact List.mem_append_right _ List.mem_cons_self
  rw [hlater part hmem]
  exact iff_of_false Bool.false_ne_true (List.cons_ne_nil _ _)

theorem WellFormed.named_first (h:WellFormed env call) (hsplit:call.parts=part::after) : part.named=true:=by
 obtain ⟨first,more,hfirst,-,hnamed,-⟩:=h.first
 obtain ⟨rfl,-⟩:=List.cons.inj (hsplit.symm.trans hfirst)
 exact hnamed

/-- The buffer of a call of which some parts, and not the last, were read. -/
def bufferAfter (env:SandToolEnv) (call:ToolCall) (parts:List CallPart) : SandToolBuffer :=
 ⟨call.name,joined env (parts.map CallPart.text),none,false⟩

theorem joined_concat (texts:List Text) (text:Text) :
 joined env (texts++[text])=mergeToolArgsText env (joined env texts) text:=by
 unfold joined
 rw [List.foldl_append]
 rfl

theorem add_part (h:WellFormed env call) (hsplit:call.parts=before++part::after) {buffer:SandToolBuffer}
 (hbuffer:buffer=if before=[] then .empty else bufferAfter env call before) :
 buffer.add env (toolPartOf call part) =
  { bufferAfter env call (before++[part]) with complete := part.done }:=by
 have hname:call.name.isEmpty=false:=by
  cases hcase:call.name.isEmpty
  · rfl
  · exact absurd (String.isEmpty_iff.mp hcase) h.name
 unfold bufferAfter
 rw [List.map_append,List.map_singleton,joined_concat]
 unfold SandToolBuffer.add toolPartOf ToolCall.partName
 by_cases hfirst:before=[]
 · subst hfirst
   rw [if_pos rfl] at hbuffer
   subst hbuffer
   rw [h.named_first hsplit]
   simp [hname,SandToolBuffer.empty,joined]
 · rw [if_neg hfirst] at hbuffer
   subst hbuffer
   cases part.named with
   | true=>simp [hname,bufferAfter]
   | false=>simp [bufferAfter]

theorem trim_empty {text:Text} (h:(trim text).isEmpty=true) : text.all isWhitespace=true:=by
 have hall:=List.rdropWhile_eq_nil_iff.mp (List.isEmpty_iff.mp h)
 have hstart:trimStart text=[]:=by
  by_contra hne
  have hspace:=hall ((trimStart text).head hne) (List.head_mem hne)
  have hink:isWhitespace ((trimStart text).head hne)=false :=
   List.head_dropWhile_not isWhitespace hne
  rw [hink] at hspace
  exact (nomatch hspace)
 exact List.all_eq_true.mpr fun char hchar=>by
  have hspace:=List.dropWhile_eq_nil_iff.mp hstart char hchar
  exact hspace

theorem WellFormed.input (h:WellFormed env call) (hreads:Reads env) (htexts:joined env call.texts=call.arguments) :
 ∃ value,env.fromStr call.arguments=some value ∧
  completeToolInput env { bufferAfter env call call.parts with complete := true } =
   some value:=by
 obtain ⟨members,hvalue⟩:=h.arguments
 have hink:(trim call.arguments).isEmpty=false:=by
  cases hcase:(trim call.arguments).isEmpty
  · rfl
  · rw [hreads.blank _ (trim_empty hcase)] at hvalue
    exact (nomatch hvalue)
 refine ⟨.object members,hvalue,?_⟩
 unfold completeToolInput bufferAfter
 unfold ToolCall.texts at htexts
 simp [htexts,hink,hvalue]

theorem WellFormed.joined_texts (h:WellFormed env call) (hreads:Reads env)
 (htexts:(Growing call.texts ∧ call.texts.getLast?=some call.arguments) ∨
  Apart call.texts) : joined env call.texts=call.arguments:=by
 have hgrowing:Growing call.texts ∧ call.texts.getLast?=some call.arguments →
  joined env call.texts=call.arguments:=by
  rintro ⟨hchain,hlast⟩
  obtain ⟨hne,hlast'⟩:=List.mem_getLast?_eq_getLast hlast
  rw [joined_growing hchain hne,hlast']
 obtain ⟨members,hvalue⟩:=h.arguments
 rcases htexts with hchain | happart
 · exact hgrowing hchain
 · rcases h.delivery with hwhole | hchain
   · rw [joined_apart hreads (hwhole.symm ▸ hvalue) happart,hwhole]
   · exact hgrowing hchain

end frame

section stream
variable {calls:List ToolCall} {stream done rest:List (ℕ×CallPart)} {number:ℕ}
 {call:ToolCall} {part:CallPart} {s:ToolState}

theorem said_append (before after:List (ℕ×CallPart)) (number:ℕ) :
 said (before++after) number=said before number++said after number:=by
 unfold said
 rw [List.filter_append,List.map_append]

theorem said_cons_self (number:ℕ) (part:CallPart) (rest:List (ℕ×CallPart)) :
 said ((number,part)::rest) number=part::said rest number:=by
 unfold said
 rw [List.filter_cons_of_pos (by simp),List.map_cons]

variable {number other:ℕ}

theorem said_single_ne (h:number≠other) (part:CallPart) : said [(number,part)] other=[]:=by
 unfold said
 rw [List.filter_cons_of_neg (by simpa using h)]
 rfl

theorem said_concat_self (done:List (ℕ×CallPart)) (number:ℕ) (part:CallPart) :
 said (done++[(number,part)]) number=said done number++[part]:=by
 rw [said_append,said_cons_self]
 rfl

theorem said_concat_ne (h:number≠other) (done:List (ℕ×CallPart)) (part:CallPart)
 : said (done++[(number,part)]) other=said done other:=by
 rw [said_append,said_single_ne h,List.append_nil]

/-- A call of which something and not everything was said. -/
def Open (done:List (ℕ×CallPart)) (number:ℕ) (call:ToolCall) : Prop :=
 said done number≠[] ∧ (said done number).length<call.parts.length

/-- What the stream has made of the parts that it has read. -/
structure Reached (env:SandToolEnv) (calls:List ToolCall) (stream done:List (ℕ×CallPart))
 (s:ToolState) : Prop where
 buffers : ∀ id buffer,s.buffers.lookup id=some buffer ↔ ∃ (number:ℕ) (call:ToolCall),
  calls[number]?=some call ∧ Open done number call ∧ key calls stream number=id ∧
   buffer=bufferAfter env call (said done number)
 completed : ∀ id,id∈s.completed ↔ ∃ (number:ℕ) (call:ToolCall),
  calls[number]?=some call ∧ said done number=call.parts ∧ key calls stream number=id

theorem isOpen_iff (hcall:calls[number]?=some call) : isOpen calls done number=true ↔ Open done number call:=by
 unfold isOpen Open
 rw [hcall]
 simp

theorem Joinable.same (h:Joinable calls stream) {call call':ToolCall}
 (hcall:calls[number]?=some call) (hcall':calls[other]?=some call')
 (hkey:key calls stream number=key calls stream other) : number=other :=
 h.keys number (List.getElem?_eq_some_iff.mp hcall).1 other (List.getElem?_eq_some_iff.mp hcall').1 hkey

theorem Reached.buffers_length (h:Reached env calls stream done s)
 (hjoinable:Joinable calls stream) : s.buffers.entries.length=(openCalls calls done).length:=by
 have hopen:∀ number∈openCalls calls done,∃ call,calls[number]?=some call ∧ Open done number call:=by
  intro number hmem
  obtain ⟨hrange,hisOpen⟩:=List.mem_filter.mp hmem
  have hcall:=List.getElem?_eq_getElem (List.mem_range.mp hrange)
  exact ⟨_,hcall,(isOpen_iff hcall).mp hisOpen⟩
 have hkeys:((openCalls calls done).map (key calls stream)).Nodup:=by
  refine List.Nodup.map_on (fun number hnumber other hother hkey=>?_)
   (List.nodup_range.filter _)
  obtain ⟨call,hcall,-⟩:=hopen number hnumber
  obtain ⟨call',hcall',-⟩:=hopen other hother
  exact hjoinable.same hcall hcall' hkey
 have hsame:∀ id,id∈s.buffers.keys ↔ id∈(openCalls calls done).map (key calls stream):=by
  intro id
  rw [← AList.mem_keys,← AList.lookup_isSome,Option.isSome_iff_exists,List.mem_map]
  constructor
  · rintro ⟨buffer,hbuffer⟩
    obtain ⟨number,call,hcall,hcallOpen,hkey,-⟩:=(h.buffers id buffer).mp hbuffer
    refine ⟨number,List.mem_filter.mpr ⟨List.mem_range.mpr ?_,?_⟩,hkey⟩
    · exact (List.getElem?_eq_some_iff.mp hcall).1
    · exact (isOpen_iff hcall).mpr hcallOpen
  · rintro ⟨number,hnumber,hkey⟩
    obtain ⟨call,hcall,hcallOpen⟩:=hopen number hnumber
    exact ⟨_,(h.buffers id _).mpr ⟨number,call,hcall,hcallOpen,hkey,rfl⟩⟩
 have hperm:=(List.perm_ext_iff_of_nodup s.buffers.keys_nodup hkeys).mpr hsame
 have hlength:=hperm.length_eq
 rw [List.length_map] at hlength
 rw [← hlength]
 exact (List.length_map _).symm

theorem Reached.partId (h:Reached env calls stream done s) (hjoinable:Joinable calls stream)
 (hcall:calls[number]?=some call) (hwell:WellFormed env call) (hstream:stream=done++(number,part)::rest)
 (hsplit:call.parts=said done number++part::said rest number) :
 SandToolParts.partId s.buffers (toolPartOf call part)=some (key calls stream number):=by
 have hidentity:=hwell.identity
 have hempty:∀ id:String,id ≠ "" → id.isEmpty=false:=fun id hid=>by
  cases hcase:id.isEmpty
  · rfl
  · exact absurd (String.isEmpty_iff.mp hcase) hid
 unfold SandToolParts.partId key toolPartOf ToolCall.partId ToolCall.partIndex
 rw [hcall,Option.map_some]
 cases hcase:call.identity with
 | id id=>
  rw [hcase] at hidentity
  simp [hempty id hidentity]
 | index index=>simp
 | idThenIndex id index=>
  rw [hcase] at hidentity
  have hone:=hjoinable.oneKey call (List.mem_of_getElem? hcall) id index hcase
  rw [hsplit,List.length_append,List.length_cons] at hone
  have hfirst:said done number=[]:=List.length_eq_zero_iff.mp (by omega)
  simp [(hwell.opens_iff hsplit).mpr hfirst,hempty id hidentity.1]
 | anonymous=>
  rw [hcase] at hidentity
  dsimp only at hidentity
  rw [hsplit,List.length_append,List.length_cons] at hidentity
  have hfirst:said done number=[]:=List.length_eq_zero_iff.mp (by omega)
  have hlast:said rest number=[]:=List.length_eq_zero_iff.mp (by omega)
  have hbefore:stream.takeWhile (fun entry=>entry.1≠number)=done:=by
   rw [hstream,List.takeWhile_append_of_pos,List.takeWhile_cons_of_neg (by simp),
    List.append_nil]
   intro entry hentry
   refine decide_eq_true fun heq=>?_
   have hmem:entry.2∈said done number :=
    List.mem_map.mpr ⟨entry,List.mem_filter.mpr ⟨hentry,decide_eq_true heq⟩,rfl⟩
   rw [hfirst] at hmem
   exact (nomatch hmem)
  rw [hbefore,h.buffers_length hjoinable]
  simp [(hwell.done_iff hsplit).mpr hlast]

theorem Reached.ingest (h:Reached env calls stream done s) (hreads:Reads env)
 (hjoinable:Joinable calls stream) (hcall:calls[number]?=some call)
 (hwell:WellFormed env call) (hstream:stream=done++(number,part)::rest)
 (hsplit:call.parts=said done number++part::said rest number) :
 (part.done=false ∧ ingestToolCallPart env s (toolPartOf call part) =
  (⟨s.buffers.insert (key calls stream number)
   (bufferAfter env call (said done number++[part])),s.completed⟩,none)) ∨
  part.done=true ∧ ∃ value,env.fromStr call.arguments=some value ∧
   ingestToolCallPart env s (toolPartOf call part) =
    (⟨s.buffers.erase (key calls stream number),key calls stream number::s.completed⟩,
     some ⟨key calls stream number,call.name,value⟩):=by
 have hid:=h.partId hjoinable hcall hwell hstream hsplit
 have hlength:=congrArg List.length hsplit
 rw [List.length_append,List.length_cons] at hlength
 have hnew:s.completed.contains (key calls stream number)=false:=by
  cases hcase:s.completed.contains (key calls stream number)
  · rfl
  · obtain ⟨other,call',hcall',hwhole,hkey⟩ :=
     (h.completed _).mp (List.contains_iff_mem.mp hcase)
    obtain rfl:=hjoinable.same hcall' hcall hkey
    obtain rfl:=Option.some.inj (hcall'.symm.trans hcall)
    rw [hwhole] at hlength
    omega
 have hbuffer:(s.buffers.lookup (key calls stream number)).getD .empty =
  if said done number=[] then .empty else bufferAfter env call (said done number):=by
  by_cases hfirst:said done number=[]
  · rw [if_pos hfirst]
    cases hlookup:s.buffers.lookup (key calls stream number) with
    | none=>rfl
    | some buffer=>
     obtain ⟨other,call',hcall',hopen,hkey,-⟩:=(h.buffers _ buffer).mp hlookup
     obtain rfl:=hjoinable.same hcall' hcall hkey
     exact absurd hfirst hopen.1
  · rw [if_neg hfirst,(h.buffers _ _).mpr ⟨number,call,hcall,⟨hfirst,by omega⟩,rfl,rfl⟩]
    rfl
 have hadd:=add_part hwell hsplit hbuffer
 unfold ingestToolCallPart
 rw [hid]
 dsimp only
 rw [hnew,if_neg Bool.false_ne_true,hadd]
 dsimp only
 cases hdone:part.done with
 | false=>
  refine Or.inl ⟨rfl,?_⟩
  rw [Bool.not_false,if_pos rfl]
  rfl
 | true=>
  refine Or.inr ⟨rfl,?_⟩
  have hlast:=(hwell.done_iff hsplit).mp hdone
  have hparts:said done number++[part]=call.parts:=by rw [hsplit,hlast]
  obtain ⟨value,hvalue,hinput⟩:=hwell.input hreads
   (hwell.joined_texts hreads (hjoinable.texts call (List.mem_of_getElem? hcall)))
  have hname:call.name.isEmpty=false:=by
   cases hcase:call.name.isEmpty
   · rfl
   · exact absurd (String.isEmpty_iff.mp hcase) hwell.name
  refine ⟨value,hvalue,?_⟩
  rw [hparts,hinput,Bool.not_true,if_neg Bool.false_ne_true]
  dsimp only
  rw [show (bufferAfter env call call.parts).name=call.name from rfl,hname,if_neg Bool.false_ne_true]

/-- A part is nothing to the buffers of other calls. -/
theorem buffer_beside {id:String} {buffer:SandToolBuffer} (hid:id≠key calls stream number) :
 (∃ (other:ℕ) (call:ToolCall),calls[other]?=some call ∧ Open done other call ∧
  key calls stream other=id ∧ buffer=bufferAfter env call (said done other)) ↔
  ∃ (other:ℕ) (call:ToolCall),calls[other]?=some call ∧
   Open (done++[(number,part)]) other call ∧ key calls stream other=id ∧
   buffer=bufferAfter env call (said (done++[(number,part)]) other):=by
 refine exists_congr fun other=>exists_congr fun call=>and_congr_right fun _=>?_
 by_cases hne:number=other
 · exact iff_of_false (fun hother=>hid (hne ▸ hother.2.1.symm))
    (fun hother=>hid (hne ▸ hother.2.1.symm))
 · unfold Open
   rw [said_concat_ne hne]

theorem Reached.insert (h:Reached env calls stream done s) (hjoinable:Joinable calls stream)
 (hcall:calls[number]?=some call) (hsplit:call.parts=said done number++part::said rest number)
 (hmore:said rest number≠[]) :
 Reached env calls stream (done++[(number,part)])
  ⟨s.buffers.insert (key calls stream number) (bufferAfter env call (said done number++[part])),s.completed⟩:=by
 have hlength:=congrArg List.length hsplit
 have hrest:=List.length_pos_iff.mpr hmore
 rw [List.length_append,List.length_cons] at hlength
 have hopen:Open (done++[(number,part)]) number call:=by
  unfold Open
  rw [said_concat_self,List.length_append,List.length_singleton]
  exact ⟨List.append_ne_nil_of_right_ne_nil _ (List.cons_ne_nil _ _),by omega⟩
 refine ⟨fun id buffer=>?_,fun id=>?_⟩
 · by_cases hid:id=key calls stream number
   · subst hid
     rw [AList.lookup_insert]
     constructor
     · intro hbuffer
       exact ⟨number,call,hcall,hopen,rfl,by
        rw [said_concat_self]
        exact (Option.some.inj hbuffer).symm⟩
     · rintro ⟨other,call',hcall',-,hkey,rfl⟩
       obtain rfl:=hjoinable.same hcall' hcall hkey
       obtain rfl:=Option.some.inj (hcall'.symm.trans hcall)
       rw [said_concat_self]
   · rw [AList.lookup_insert_ne hid,h.buffers]
     exact buffer_beside hid
 · rw [h.completed]
   constructor
   · rintro ⟨other,call',hcall',hwhole,rfl⟩
     by_cases hne:number=other
     · subst hne
       obtain rfl:=Option.some.inj (hcall'.symm.trans hcall)
       rw [hwhole] at hlength
       omega
     · exact ⟨other,call',hcall',by rw [said_concat_ne hne]; exact hwhole,rfl⟩
   · rintro ⟨other,call',hcall',hwhole,rfl⟩
     by_cases hne:number=other
     · subst hne
       obtain rfl:=Option.some.inj (hcall'.symm.trans hcall)
       have hless:=hopen.2
       rw [hwhole] at hless
       exact absurd hless (lt_irrefl _)
     · rw [said_concat_ne hne] at hwhole
       exact ⟨other,call',hcall',hwhole,rfl⟩

theorem Reached.complete (h:Reached env calls stream done s) (hjoinable:Joinable calls stream)
 (hcall:calls[number]?=some call) (hwhole:call.parts=said done number++[part]) :
 Reached env calls stream (done++[(number,part)])
  ⟨s.buffers.erase (key calls stream number),key calls stream number::s.completed⟩:=by
 have hsaid:said (done++[(number,part)]) number=call.parts:=by
  rw [said_concat_self,hwhole]
 refine ⟨fun id buffer=>?_,fun id=>?_⟩
 · by_cases hid:id=key calls stream number
   · subst hid
     rw [AList.lookup_erase]
     refine ⟨fun hnone=>(nomatch hnone),?_⟩
     rintro ⟨other,call',hcall',hother,hkey,-⟩
     obtain rfl:=hjoinable.same hcall' hcall hkey
     obtain rfl:=Option.some.inj (hcall'.symm.trans hcall)
     have hless:=hother.2
     rw [hsaid] at hless
     exact absurd hless (lt_irrefl _)
   · rw [AList.lookup_erase_ne hid,h.buffers]
     exact buffer_beside hid
 · rw [List.mem_cons,h.completed]
   constructor
   · rintro (rfl | ⟨other,call',hcall',hother,rfl⟩)
     · exact ⟨number,call,hcall,hsaid,rfl⟩
     · by_cases hne:number=other
       · subst hne
         exact ⟨number,call,hcall,hsaid,rfl⟩
       · exact ⟨other,call',hcall',by rw [said_concat_ne hne]; exact hother,rfl⟩
   · rintro ⟨other,call',hcall',hother,rfl⟩
     by_cases hne:number=other
     · subst hne
       exact Or.inl rfl
     · rw [said_concat_ne hne] at hother
       exact Or.inr ⟨other,call',hcall',hother,rfl⟩

theorem Reached.start (hcalls:∀ call∈calls,WellFormed env call) : Reached env calls stream [] ⟨∅,[]⟩:=by
 refine ⟨fun id buffer=>?_,fun id=>?_⟩
 · rw [AList.lookup_empty]
   refine ⟨fun hnone=>(nomatch hnone),?_⟩
   rintro ⟨number,call,-,hopen,-,-⟩
   exact absurd rfl hopen.1
 · refine ⟨fun hnone=>(nomatch hnone),?_⟩
   rintro ⟨number,call,hcall,hwhole,-⟩
   obtain ⟨first,more,hfirst,-⟩:=(hcalls call (List.mem_of_getElem? hcall)).first
   rw [hfirst] at hwhole
   exact (nomatch hwhole)

theorem Reached.closed (h:Reached env calls stream stream s)
 (hstream:Interleaves calls stream) : s.buffers.entries=[]:=by
 cases hentries:s.buffers.entries with
 | nil=>rfl
 | cons entry entries=>
  have hmem:entry∈s.buffers.entries:=by
   rw [hentries]
   exact List.mem_cons_self
  have hlookup:=AList.mem_lookup_iff.mpr hmem
  obtain ⟨number,call,hcall,hopen,-,-⟩:=(h.buffers entry.1 entry.2).mp hlookup
  have hless:=hopen.2
  rw [hstream.whole number call hcall] at hless
  exact absurd hless (lt_irrefl _)

/-- The name of a tool event and what it hands over. -/
def handed (event:NativeTool) : String×Option JsonValue := (event.name,some event.input)

def asked (env:SandToolEnv) (call:ToolCall) : String×Option JsonValue :=
 (call.name,env.fromStr call.arguments)

def answers (env:SandToolEnv) (calls:List ToolCall) (stream:List (ℕ×CallPart)) : List (String×Option JsonValue) :=
 ((stream.filter fun entry=>entry.2.done).map Prod.fst).filterMap fun number=>
  (calls[number]?).map (asked env)

/-- From a state that is true to what was read, the rest of the stream leads to one that is true
to the whole, with one event for each part that ends its call. -/
theorem run_rest (hreads:Reads env) (hcalls:∀ call∈calls,WellFormed env call)
 (hstream:Interleaves calls stream) (hjoinable:Joinable calls stream)
 (rest:List (ℕ×CallPart)) : ∀ (done:List (ℕ×CallPart)) (s:SandInferenceStream),
  stream=done++rest → Reached env calls stream done s.tools → s.terminalEmitted=false →
  ∃ tools events,(partFrames calls rest).foldl (SandInferenceStream.queueFrame env) s =
   ⟨tools,false,s.toolEvents++events⟩ ∧
   Reached env calls stream stream tools ∧ events.map handed=answers env calls rest:=by
 induction rest with
 | nil=>
  intro done s hsplit hreached hgoing
  rw [List.append_nil] at hsplit
  subst hsplit
  refine ⟨s.tools,[],?_,hreached,rfl⟩
  rw [List.append_nil,← hgoing]
  rfl
 | cons entry rest ih=>
  intro done s hsplit hreached hgoing
  obtain ⟨number,part⟩:=entry
  have hinside:number<calls.length:=hstream.inside (number,part)
   (by rw [hsplit]; exact List.mem_append_right _ List.mem_cons_self)
  have hcall:=List.getElem?_eq_getElem hinside
  have hwell:=hcalls _ (List.getElem_mem hinside)
  generalize calls[number]=call at hcall hwell
  have hparts:call.parts=said done number++part::said rest number:=by
   rw [← hstream.whole number call hcall,hsplit,said_append,said_cons_self]
  have hnext:stream=(done++[(number,part)])++rest:=by
   rw [hsplit,List.append_assoc]
   rfl
  have hframe:partFrames calls ((number,part)::rest) =
   .data (call.frame part)::partFrames calls rest:=by
   unfold partFrames
   rw [List.filterMap_cons]
   dsimp only
   rw [hcall]
   rfl
  rw [hframe,List.foldl_cons,queue_part hwell part hgoing]
  rcases hreached.ingest hreads hjoinable hcall hwell hsplit hparts with
   ⟨hopen,hingest⟩ | ⟨hdone,value,hvalue,hingest⟩
  · rw [hingest]
    have hmore:said rest number≠[]:=fun hlast=>by
     rw [(hwell.done_iff hparts).mpr hlast] at hopen
     exact (nomatch hopen)
    obtain ⟨tools,events,hrun,hend,hevents⟩:=ih _
     ⟨_,false,s.toolEvents++[]⟩ hnext (hreached.insert hjoinable hcall hparts hmore) rfl
    refine ⟨tools,events,?_,hend,?_⟩
    · rw [List.append_nil] at hrun
      simpa using hrun
    · unfold answers at hevents ⊢
      rw [List.filter_cons_of_neg (by simp [hopen])]
      exact hevents
  · rw [hingest]
    have hlast:=(hwell.done_iff hparts).mp hdone
    rw [hlast] at hparts
    obtain ⟨tools,events,hrun,hend,hevents⟩:=ih _
     ⟨_,false,s.toolEvents++[⟨key calls stream number,call.name,value⟩]⟩ hnext
     (hreached.complete hjoinable hcall hparts) rfl
    refine ⟨tools,⟨key calls stream number,call.name,value⟩::events,?_,hend,?_⟩
    · rw [List.append_assoc] at hrun
      exact hrun
    · unfold answers at hevents ⊢
      rw [List.filter_cons_of_pos (by simp [hdone]),List.map_cons,List.map_cons,
       List.filterMap_cons]
      dsimp only
      rw [hcall,Option.map_some]
      dsimp only
      rw [hevents]
      unfold asked handed
      rw [hvalue]

theorem count_last (stream:List (ℕ×CallPart)) (number:ℕ) :
 ((stream.filter fun entry=>entry.2.done).map Prod.fst).count number =
  ((said stream number).filter CallPart.done).length:=by
 induction stream with
 | nil=>rfl
 | cons entry stream ih=>
  obtain ⟨other,part⟩:=entry
  by_cases hsame:other=number
  · subst hsame
    rw [said_cons_self]
    cases hdone:part.done with
    | true=>
     rw [List.filter_cons_of_pos (by simp [hdone]),List.filter_cons_of_pos hdone,
      List.map_cons,List.count_cons_self,ih,List.length_cons]
    | false=>
     rw [List.filter_cons_of_neg (by simp [hdone]),List.filter_cons_of_neg (by simp [hdone]),ih]
  · have hsaid:said ((other,part)::stream) number=said stream number:=by
     have happend:=said_append [(other,part)] stream number
     rw [said_single_ne hsame] at happend
     exact happend
    rw [hsaid]
    cases hdone:part.done with
    | true=>
     rw [List.filter_cons_of_pos (by simp [hdone]),List.map_cons,
      List.count_cons_of_ne hsame,ih]
    | false=>rw [List.filter_cons_of_neg (by simp [hdone]),ih]

theorem WellFormed.one_last {call:ToolCall} (h:WellFormed env call) : (call.parts.filter CallPart.done).length=1:=by
 obtain ⟨before,part,hlast,hdone,hopen⟩:=h.last
 have hnone:before.filter CallPart.done=[]:=List.filter_eq_nil_iff.mpr fun earlier hmem=>by
  rw [hopen earlier hmem]
  exact Bool.false_ne_true
 rw [hlast,List.filter_append,hnone,List.nil_append,List.filter_cons_of_pos hdone]
 rfl

theorem last_perm (hcalls:∀ call∈calls,WellFormed env call) (hstream:Interleaves calls stream) :
 ((stream.filter fun entry=>entry.2.done).map Prod.fst).Perm (List.range calls.length):=by
 refine List.perm_iff_count.mpr fun number=>?_
 by_cases hnumber:number<calls.length
 · rw [count_last,hstream.whole number _ (List.getElem?_eq_getElem hnumber),
    (hcalls _ (List.getElem_mem hnumber)).one_last,
    List.count_eq_one_of_mem List.nodup_range (List.mem_range.mpr hnumber)]
 · rw [List.count_eq_zero_of_not_mem fun hmem=>hnumber (List.mem_range.mp hmem)]
   refine List.count_eq_zero_of_not_mem fun hmem=>hnumber ?_
   obtain ⟨entry,hentry,rfl⟩:=List.mem_map.mp hmem
   exact hstream.inside entry (List.mem_of_mem_filter hentry)

theorem filterMap_range {α β:Type} (f:α → β) (items:List α) :
 ((List.range items.length).filterMap fun number=>(items[number]?).map f)=items.map f:=by
 induction items using List.reverseRecOn with
 | nil=>rfl
 | append_singleton items item ih=>
  rw [List.length_append,List.length_singleton,List.range_succ,List.filterMap_append,List.map_append,← ih]
  congr 1
  · refine List.filterMap_congr fun number hmem=>?_
    rw [List.getElem?_append_left (List.mem_range.mp hmem)]
  · simp

end stream

variable {calls:List ToolCall} {stream:List (ℕ×CallPart)}

theorem reassembled_of_joinable (hreads:Reads env) (hcalls:∀ call∈calls,WellFormed env call)
 (hstream:Interleaves calls stream) (hjoinable:Joinable calls stream) : Reassembled env calls stream:=by
 obtain ⟨tools,events,hrun,hend,hevents⟩:=run_rest hreads hcalls hstream hjoinable stream []
  .new rfl (Reached.start hcalls) rfl
 have hall:(toolEventsOf env (framesOf calls stream)).map handed=answers env calls stream:=by
  unfold toolEventsOf framesOf
  rw [List.foldl_append]
  change (SandInferenceStream.queueFrame env ((partFrames calls stream).foldl
   (SandInferenceStream.queueFrame env) .new) .end).toolEvents.map handed=_
  rw [hrun]
  change (SandInferenceStream.emitEndOnce env ⟨tools,false,events⟩).toolEvents.map handed=_
  unfold SandInferenceStream.emitEndOnce
  dsimp only
  rw [if_neg Bool.false_ne_true,hend.closed hstream]
  change (events++[]).map handed=_
  rw [List.append_nil,hevents]
 change ((toolEventsOf env (framesOf calls stream)).map handed).Perm (calls.map (asked env))
 rw [hall,← filterMap_range (asked env) calls]
 exact (last_perm hcalls hstream).filterMap _

/-- Joinable calls are put together again; and what is parsed for a call that comes in fragments is
its own text exactly if its fragments are apart. -/
theorem calls_reassemble {calls:List ToolCall} {stream:List (ℕ×CallPart)}
    (hreads:Reads env) (hcalls:∀ call∈calls,WellFormed env call) (hstream:Interleaves calls stream) :
    (Joinable calls stream → Reassembled env calls stream) ∧
      ∀ call∈calls,call.texts.flatten=call.arguments → (joined env call.texts=call.arguments ↔ Apart call.texts):=by
  refine ⟨reassembled_of_joinable hreads hcalls hstream,fun call hmem hwhole=>?_⟩
  obtain ⟨members,hvalue⟩:=(hcalls call hmem).arguments
  have hfragments:=joined_fragments_iff hreads (hwhole.symm ▸ hvalue)
  rw [hwhole] at hfragments
  exact hfragments

def braceText : Text := "\x7b\"a\":\"\x7b\"\x7d".toList

def emptyText : Text := "\x7b\x7d".toList

def sampleEnv : SandToolEnv where
 fromStr text :=
  if text=braceText then some (.object [("a",.string "\x7b")])
  else if text = "\x7b\"a\":\"\"\x7d".toList then some (.object [("a",.string "")])
  else if text=emptyText then some (.object [])
  else none
 extractToolCalls _ := []

theorem sampleEnv_isSome {text:Text} (h:(sampleEnv.fromStr text).isSome=true) :
 text∈[braceText,"\x7b\"a\":\"\"\x7d".toList,emptyText]:=by
 unfold sampleEnv at h
 dsimp only at h
 split_ifs at h with hbrace hquotes hempty
 · exact hbrace ▸ List.mem_cons_self
 · exact hquotes ▸ List.mem_cons_of_mem _ List.mem_cons_self
 · exact hempty ▸ List.mem_cons_of_mem _ (List.mem_cons_of_mem _ List.mem_cons_self)
 · exact (nomatch h)

theorem sampleEnv_reads : Reads sampleEnv:=by
 have hink:∀ text∈[braceText,"\x7b\"a\":\"\"\x7d".toList,emptyText],text.all isWhitespace=false := by decide
 have hfronts:∀ text∈[braceText,"\x7b\"a\":\"\"\x7d".toList,emptyText],
  ∀ whole∈[braceText,"\x7b\"a\":\"\"\x7d".toList,emptyText],
   text.isPrefixOf whole=true → whole.length=text.length := by decide
 refine ⟨fun text hblank=>?_,fun text more members hwhole hread=>?_⟩
 · cases hcase:sampleEnv.fromStr text with
   | none=>rfl
   | some value=>
    rw [hink text (sampleEnv_isSome (by rw [hcase]; rfl))] at hblank
    exact (nomatch hblank)
 · have hlength:=hfronts text (sampleEnv_isSome hread) (text++more) (sampleEnv_isSome (by rw [hwhole]; rfl))
    (List.isPrefixOf_iff_prefix.mpr (List.prefix_append _ _))
   rw [List.length_append] at hlength
   rw [List.length_eq_zero_iff.mp (by omega:more.length=0)]
   rfl

def openingPart (text:String) : CallPart := ⟨text.toList,true,true,false⟩

def closingPart (text:String) : CallPart := ⟨text.toList,false,false,true⟩

def wholePart (text:String) : CallPart := ⟨text.toList,true,true,true⟩

/-- A fragment that begins what came before it. -/
def braceCall : ToolCall :=
 ⟨"Bash",braceText,.id "c1",[openingPart "\x7b\"a\":\"",⟨"\x7b".toList,false,false,false⟩,closingPart "\"\x7d"]⟩

def anonymousCall (name:String) : ToolCall :=
 ⟨name,emptyText,.anonymous,[wholePart "\x7b\x7d"]⟩

def splitCall (identity:CallIdentity) : ToolCall :=
 ⟨"Read",emptyText,identity,[openingPart "\x7b",closingPart "\x7d"]⟩

theorem braceCall_wellFormed : WellFormed sampleEnv braceCall where
 name := by decide
 arguments := ⟨_,rfl⟩
 first := ⟨_,_,rfl,rfl,rfl,by decide⟩
 last := ⟨[openingPart "\x7b\"a\":\"",⟨"\x7b".toList,false,false,false⟩],_,rfl,rfl,by decide⟩
 delivery := Or.inl (by decide)
 identity := show "c1" ≠ "" by decide

theorem anonymousCall_wellFormed {name:String} (hname:name ≠ "") : WellFormed sampleEnv (anonymousCall name) where
 name := hname
 arguments := ⟨[],(rfl:sampleEnv.fromStr emptyText=_)⟩
 first := ⟨_,[],rfl,rfl,rfl,fun _ hmem=>(nomatch hmem)⟩
 last := ⟨[],_,rfl,rfl,fun _ hmem=>(nomatch hmem)⟩
 delivery := Or.inl rfl
 identity := rfl

theorem splitCall_wellFormed {identity:CallIdentity} (hidentity:match identity with
      | .id id=>id ≠ ""
      | .index index=>asI32 index=some index
      | .idThenIndex id index=>id ≠ "" ∧ asI32 index=some index
      | .anonymous=>False) : WellFormed sampleEnv (splitCall identity) where
 name := show "Read" ≠ "" by decide
 arguments := ⟨[],rfl⟩
 first := ⟨_,_,rfl,rfl,rfl,by decide⟩
 last := ⟨[openingPart "\x7b"],_,rfl,rfl,by decide⟩
 delivery := Or.inl rfl
 identity:=by
  cases identity with
  | anonymous=>exact hidentity.elim
  | id _ | index _ | idThenIndex _ _=>exact hidentity

/-- A call by its index between the parts of one by its id, with an anonymous one among them. -/
def sampleCalls : List ToolCall :=
 [splitCall (.id "c1"),splitCall (.index 0),anonymousCall "List"]

def sampleStream : List (ℕ×CallPart) :=
 [(0,openingPart "\x7b"),(1,openingPart "\x7b"),(2,wholePart "\x7b\x7d"),(1,closingPart "\x7d"),(0,closingPart "\x7d")]

theorem sampleCalls_wellFormed : ∀ call∈sampleCalls,WellFormed sampleEnv call:=by
 intro call hmem
 rcases List.mem_cons.mp hmem with rfl | hmem
 · exact splitCall_wellFormed (show "c1" ≠ "" by decide)
 rcases List.mem_cons.mp hmem with rfl | hmem
 · exact splitCall_wellFormed (show asI32 0=some 0 by decide)
 obtain rfl:=List.mem_singleton.mp hmem
 exact anonymousCall_wellFormed (by decide)

theorem interleaves_of_lookup (hinside:∀ entry∈stream,entry.1<calls.length)
 (hwhole:(List.range calls.length).map (said stream)=calls.map ToolCall.parts) : Interleaves calls stream:=by
 refine ⟨hinside,fun number call hcall=>?_⟩
 have hnumber:=(List.getElem?_eq_some_iff.mp hcall).1
 have hsame:=congrArg (fun parts=>parts[number]?) hwhole
 simp only [List.getElem?_map,hcall,List.getElem?_range hnumber,Option.map_some] at hsame
 exact Option.some.inj hsame

theorem sample_interleaves : Interleaves sampleCalls sampleStream :=
 interleaves_of_lookup (by decide) rfl

theorem calls_reassemble_sample : Reassembled sampleEnv sampleCalls sampleStream:=by
  refine (calls_reassemble sampleEnv_reads sampleCalls_wellFormed sample_interleaves).1 ⟨by decide +kernel,?_,?_⟩
  · intro call hmem id index hidentity
    rcases List.mem_cons.mp hmem with rfl | hmem
    · exact (nomatch hidentity)
    rcases List.mem_cons.mp hmem with rfl | hmem
    · exact (nomatch hidentity)
    obtain rfl:=List.mem_singleton.mp hmem
    exact (nomatch hidentity)
  · have hapart:Apart ["\x7b".toList,"\x7d".toList] :=
      (joined_fragments_iff sampleEnv_reads
        (show sampleEnv.fromStr ["\x7b".toList,"\x7d".toList].flatten=some (.object []) from rfl)).mp
        (by decide +kernel)
    intro call hmem
    rcases List.mem_cons.mp hmem with rfl | hmem
    · exact Or.inr hapart
    rcases List.mem_cons.mp hmem with rfl | hmem
    · exact Or.inr hapart
    obtain rfl:=List.mem_singleton.mp hmem
    exact Or.inl ⟨List.IsChain.singleton _,rfl⟩

/-- A stream of well-formed calls that are not put together. -/
def Fails (env:SandToolEnv) (calls:List ToolCall) (stream:List (ℕ×CallPart)) : Prop :=
 Reads env ∧ (∀ call∈calls,WellFormed env call) ∧ Interleaves calls stream ∧ ¬Reassembled env calls stream

theorem fails_of_length (hcalls:∀ call∈calls,WellFormed sampleEnv call) (hstream:Interleaves calls stream)
 (hlength:(toolEventsOf sampleEnv (framesOf calls stream)).length≠calls.length) : Fails sampleEnv calls stream:=by
 refine ⟨sampleEnv_reads,hcalls,hstream,fun hperm=>hlength ?_⟩
 have hsame:=hperm.length_eq
 rw [List.length_map,List.length_map] at hsame
 exact hsame

/-- A fragment is lost, a second anonymous call is lost, and so is one that is named by its id
only once. -/
theorem streams_not_reassembled :
    Fails sampleEnv [braceCall] (braceCall.parts.map fun part=>(0,part)) ∧
      Fails sampleEnv [anonymousCall "Read",anonymousCall "List"]
        [(0,wholePart "\x7b\x7d"),(1,wholePart "\x7b\x7d")] ∧
      Fails sampleEnv [splitCall (.idThenIndex "c1" 0)]
        [(0,openingPart "\x7b"),(0,closingPart "\x7d")]:=by
  refine ⟨⟨sampleEnv_reads,?_,interleaves_of_lookup (by decide) rfl,fun hperm=>?_⟩,
    fails_of_length ?_ (interleaves_of_lookup (by decide) rfl) (by decide +kernel),
    fails_of_length ?_ (interleaves_of_lookup (by decide) rfl) (by decide +kernel)⟩
  · intro call hmem
    obtain rfl:=List.mem_singleton.mp hmem
    exact braceCall_wellFormed
  · -- The value that is handed over is the empty string.
    have hvalues:=hperm.map fun answer : String×Option JsonValue=>
      answer.2.bind fun input=>(input.get "a").bind JsonValue.asStr
    have hdecide:¬(List.map (fun answer:String×Option JsonValue=>
        answer.2.bind fun input=>(input.get "a").bind JsonValue.asStr)
        ((toolEventsOf sampleEnv (framesOf [braceCall] (braceCall.parts.map fun part=>(0,part)))).map fun event=>
            (event.name,some event.input))).Perm
      (([braceCall].map fun call=>(call.name,sampleEnv.fromStr call.arguments)).map
        fun answer : String×Option JsonValue=>
          answer.2.bind fun input=>(input.get "a").bind JsonValue.asStr):=by
      decide +kernel
    exact hdecide hvalues
  · intro call hmem
    rcases List.mem_cons.mp hmem with rfl | hmem
    · exact anonymousCall_wellFormed (by decide)
    obtain rfl:=List.mem_singleton.mp hmem
    exact anonymousCall_wellFormed (by decide)
  · intro call hmem
    obtain rfl:=List.mem_singleton.mp hmem
    exact splitCall_wellFormed ⟨by decide,by decide⟩

end CursorProxy.SandToolReassembly
