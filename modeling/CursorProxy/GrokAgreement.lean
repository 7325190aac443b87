import CursorProxy.GrokBrackets
import CursorProxy.GrokChunking
import CursorProxy.GrokCollected

namespace CursorProxy.GrokAgreement
open BlockBrackets ChunkedPipes GrokBrackets GrokChunking GrokCollected GrokMoves GrokReducer
open GrokStream JsonValues

variable {α:Type}

theorem updateLast_eq (index:ℕ) (f:α → α) (blocks:List (ℕ×α))
 (hnodup:(blocks.map Prod.fst).Nodup) : updateLast index f blocks =
  blocks.map fun block=>if block.1=index then (block.1,f block.2) else block:=by
 induction blocks with
 | nil=>rfl
 | cons block blocks ih=>
  obtain ⟨hfresh,hrest⟩:=List.nodup_cons.mp hnodup
  rw [updateLast,List.map_cons,ih hrest]
  by_cases hindex:block.1=index
  · have hothers:∀ other∈blocks,other.1≠index:=fun other hmem hother=>
     hfresh (List.mem_map.mpr ⟨other,hmem,hother.trans hindex.symm⟩)
    have hany:(blocks.any fun other=>decide (other.1=index))=false :=
     List.any_eq_false.mpr fun other hmem hother=>hothers other hmem (of_decide_eq_true hother)
    have hsame:blocks.map (fun block=>if block.1=index then (block.1,f block.2) else block) =
     blocks.map id := List.map_congr_left fun other hmem=>if_neg (hothers other hmem)
    rw [hany,if_neg Bool.false_ne_true,if_pos hindex,if_pos hindex,hsame,List.map_id]
  · rw [if_neg hindex,if_neg hindex]
    cases hany:blocks.any fun other=>decide (other.1=index) with
    | true=>rw [if_pos rfl]
    | false=>
     have hsame:blocks.map (fun block=>
      if block.1=index then (block.1,f block.2) else block)=blocks.map id :=
      List.map_congr_left fun other hmem=>if_neg fun hother=>
       List.any_eq_false.mp hany other hmem (decide_eq_true hother)
     rw [if_neg Bool.false_ne_true,hsame,List.map_id]

theorem updateLast_keys (index:ℕ) (f:α → α) (blocks:List (ℕ×α)) :
 (updateLast index f blocks).map Prod.fst=blocks.map Prod.fst:=by
 induction blocks with
 | nil=>rfl
 | cons block blocks ih=>
  rw [updateLast]
  split_ifs
  · rw [List.map_cons,List.map_cons,ih]
  · rfl
  · rfl

theorem forall₂_map {β γ δ:Type} {r:α → β → Prop} {r':γ → δ → Prop} {f:α → γ} {g:β → δ}
 {as:List α} {bs:List β} (h:List.Forall₂ r as bs) (hmap:∀ a∈as,∀ b,r a b → r' (f a) (g b)) :
 List.Forall₂ r' (as.map f) (bs.map g):=by
 induction h with
 | nil=>exact List.Forall₂.nil
 | cons hab _ ih=>
  exact List.Forall₂.cons (hmap _ List.mem_cons_self _ hab) (ih fun a hmem b=>hmap a (List.mem_cons_of_mem _ hmem) b)

theorem forall₂_partner {β:Type} {r:α → β → Prop} {as:List α} {bs:List β}
 (h:List.Forall₂ r as bs) {a:α} (hmem:a∈as) : ∃ b∈bs,r a b:=by
 induction h with
 | nil=>exact (nomatch hmem)
 | cons hab _ ih=>
  rcases List.mem_cons.mp hmem with rfl | hmem
  · exact ⟨_,List.mem_cons_self,hab⟩
  · obtain ⟨b,hb,hrest⟩:=ih hmem
    exact ⟨b,List.mem_cons_of_mem _ hb,hrest⟩

inductive Same (env:StreamEnv) (c:Core) (out:List ReducerEvent) (index:ℕ) :
 Collected → ClientBlock → Prop
 | thinking (thinking signature:String) :
  Same env c out index (.thinking thinking signature) (.thinking thinking signature)
 | text (text:String) (citations:List Citation) :
  Same env c out index (.text text citations) (.text text citations)
 | compaction (content:String) :
  Same env c out index (.compaction content) (.compaction content)
 | opened (id name:String) (args:Option String) (call callName:String)
  (hopen:c.calls.lookup call=some (index,callName))
  (hargs:args.getD "" = argumentsOf index out) :
  Same env c out index (.toolUse id name (.object []) args)
   (.toolUse id name (argumentsOf index out))
 | closed (id name partialJson:String) (input:JsonValue) (hne:partialJson ≠ "")
  (hread:env.readValue partialJson=some input)
  (hclosed:∀ call callName,c.calls.lookup call≠some (index,callName)) :
  Same env c out index (.toolUse id name input none) (.toolUse id name partialJson)
 | search (id name query:String)
  (hclosed:∀ call callName,c.calls.lookup call≠some (index,callName)) :
  Same env c out index (.serverToolUse id name (searchInput query))
   (.serverToolUse id name (env.writeValue (searchInput query)))
 | result (type toolUseId:String) :
  Same env c out index (.toolResult type toolUseId) (.toolResult type toolUseId)

theorem Same.transfer {env:StreamEnv} {c d:Core} {out more:List ReducerEvent} {index:ℕ}
 {collected:Collected} {block:ClientBlock} (h:Same env c out index collected block)
 (hcalls:∀ call callName,d.calls.lookup call=some (index,callName) ↔ c.calls.lookup call=some (index,callName))
 (hargs:argumentsOf index (out++more)=argumentsOf index out) : Same env d (out++more) index collected block:=by
 cases h with
 | thinking thinking signature=>exact .thinking thinking signature
 | text text citations=>exact .text text citations
 | compaction content=>exact .compaction content
 | opened id name args call callName hopen hown=>
  rw [← hargs]
  exact .opened id name args call callName ((hcalls call callName).mpr hopen) (hown.trans hargs.symm)
 | closed id name partialJson input hne hread hclosed=>
  exact .closed id name partialJson input hne hread fun call callName hopen=>
   hclosed call callName ((hcalls call callName).mp hopen)
 | search id name query hclosed=>
  exact .search id name query fun call callName hopen=>
   hclosed call callName ((hcalls call callName).mp hopen)
 | result type toolUseId=>exact .result type toolUseId

def SameAt (env:StreamEnv) (c:Core) (out:List ReducerEvent) (collected:ℕ×Collected) (block:ℕ×ClientBlock) : Prop :=
 collected.1=block.1 ∧ Same env c out collected.1 collected.2 block.2

/-- Both have been collected from the same events. -/
structure Joint (env:StreamEnv) (messageId model:String) (c:Core)
 (out:List ReducerEvent) : Prop where
 collected : ∃ s,out.foldlM (AccumulateState.read env.toGrokEnv) .new=.ok s ∧
  (s.blocks.map Prod.fst).Nodup ∧ (∀ block∈s.blocks,block.1<c.nextIndex) ∧
   List.Forall₂ (SameAt env c out) s.blocks
    ((out.flatMap (renderEvent env)).foldl ClientMessage.read ⟨messageId,model,[],none,⟨0,0,0,0⟩⟩).blocks

section joint
variable {env:StreamEnv} {messageId model:String} {may:Bool} {c d:Core} {out more:List ReducerEvent}

variable {event:ReducerEvent}

theorem collect_snoc {s s':AccumulateState} (hfold:out.foldlM (AccumulateState.read env.toGrokEnv) .new=.ok s)
 (hread:s.read env.toGrokEnv event=.ok s') :
 (out++[event]).foldlM (AccumulateState.read env.toGrokEnv) .new=.ok s':=by
 rw [List.foldlM_append,hfold]
 change (s.read env.toGrokEnv event >>= pure)=_
 rw [bind_pure,hread]

theorem Joint.quiet (h:Joint env messageId model c out)
 (hread:∀ s:AccumulateState,∃ s',s.read env.toGrokEnv event=.ok s' ∧ s'.blocks=s.blocks)
 (hrender:∀ message:ClientMessage,((renderEvent env event).foldl ClientMessage.read message).blocks=message.blocks)
 (hnext:d.nextIndex=c.nextIndex) (hcalls:d.calls=c.calls)
 (hargs:∀ index,argumentOf index event=none) : Joint env messageId model d (out++[event]):=by
 obtain ⟨s,hfold,hnodup,hlt,hblocks⟩:=h.collected
 obtain ⟨s',hread,hsame⟩:=hread s
 refine ⟨s',collect_snoc hfold hread,hsame ▸ hnodup,?_,?_⟩
 · rw [hsame,hnext]
   exact hlt
 · rw [List.flatMap_append,List.foldl_append,List.flatMap_singleton,hrender,hsame]
   exact hblocks.imp fun collected block hboth=>⟨hboth.1,hboth.2.transfer
    (fun call callName=>by rw [hcalls]) (argumentsOf_quiet hargs _ out)⟩

theorem Joint.append (h:Joint env messageId model c out) (news:List (ℕ×Collected)) (blocks:List (ℕ×ClientBlock))
 (hread:∀ s:AccumulateState,s.read env.toGrokEnv event=.ok { s with blocks := s.blocks++news })
 (hrender:∀ message:ClientMessage,(∀ block∈message.blocks,block.1<c.nextIndex) → ((renderEvent env event).foldl ClientMessage.read message).blocks=message.blocks++blocks)
 (hnodup:(news.map Prod.fst).Nodup)
 (hnews:∀ block∈news,c.nextIndex ≤ block.1 ∧ block.1<d.nextIndex)
 (hnext:c.nextIndex ≤ d.nextIndex)
 (hcalls:∀ index,index<c.nextIndex → ∀ call callName,d.calls.lookup call=some (index,callName) ↔ c.calls.lookup call=some (index,callName))
 (hargs:∀ index,argumentOf index event=none)
 (hsame:List.Forall₂ (SameAt env d (out++[event])) news blocks) :
 Joint env messageId model d (out++[event]):=by
 obtain ⟨s,hfold,hkeys,hlt,hblocks⟩:=h.collected
 have hclient:∀ block∈((out.flatMap (renderEvent env)).foldl ClientMessage.read
  ⟨messageId,model,[],none,⟨0,0,0,0⟩⟩).blocks,block.1<c.nextIndex:=by
  intro block hmem
  obtain ⟨collected,hcollected,hboth⟩:=forall₂_partner hblocks.flip hmem
  exact hboth.1 ▸ hlt collected hcollected
 refine ⟨{ s with blocks := s.blocks++news },collect_snoc hfold (hread s),?_,?_,?_⟩
 · change ((s.blocks++news).map Prod.fst).Nodup
   rw [List.map_append]
   refine List.Nodup.append hkeys hnodup fun index hmem hnew=>?_
   obtain ⟨block,hblock,rfl⟩:=List.mem_map.mp hmem
   obtain ⟨other,hother,hsameKey⟩:=List.mem_map.mp hnew
   exact Nat.lt_irrefl _ (Nat.lt_of_lt_of_le (hlt block hblock) (hsameKey ▸ (hnews other hother).1))
 · intro other hmem
   rcases List.mem_append.mp hmem with hmem | hmem
   · exact Nat.lt_of_lt_of_le (hlt other hmem) hnext
   · exact (hnews other hmem).2
 · rw [List.flatMap_append,List.foldl_append,List.flatMap_singleton,hrender _ hclient]
   refine List.rel_append ?_ hsame
   have hkept:List.Forall₂ (SameAt env d (out++[event])) (s.blocks.map id) (_:List _) :=
    forall₂_map (g := id) hblocks fun collected hmem block hboth=>⟨hboth.1,hboth.2.transfer
     (hcalls _ (hlt collected hmem)) (argumentsOf_quiet hargs _ out)⟩
   rw [List.map_id,List.map_id] at hkept
   exact hkept

theorem Joint.update (h:Joint env messageId model c out) (index:ℕ) {f:Collected → Collected}
 {g:ClientBlock → ClientBlock}
 (hread:∀ s:AccumulateState,(s.blocks.map Prod.fst).Nodup → (∀ block∈s.blocks,∃ other,Same env c out block.1 block.2 other) → s.read env.toGrokEnv event=.ok (s.update index f))
 (hrender:∀ message:ClientMessage,((renderEvent env event).foldl ClientMessage.read message).blocks=message.blocks.map fun block=>if block.1=index then (block.1,g block.2) else block)
 (hnext:d.nextIndex=c.nextIndex)
 (hcalls:∀ other,other≠index → ∀ call callName,d.calls.lookup call=some (other,callName) ↔ c.calls.lookup call=some (other,callName))
 (hargs:∀ other,other≠index → argumentsOf other (out++[event])=argumentsOf other out)
 (hsame:∀ collected block,Same env c out index collected block → Same env d (out++[event]) index (f collected) (g block))
 :
 Joint env messageId model d (out++[event]):=by
 obtain ⟨s,hfold,hnodup,hlt,hblocks⟩:=h.collected
 have hpartner:∀ block∈s.blocks,∃ other,Same env c out block.1 block.2 other:=by
  intro block hmem
  obtain ⟨other,-,hboth⟩:=forall₂_partner hblocks hmem
  exact ⟨other.2,hboth.2⟩
 refine ⟨s.update index f,collect_snoc hfold (hread s hnodup hpartner),?_,?_,?_⟩
 · change ((updateLast index f s.blocks).map Prod.fst).Nodup
   rw [updateLast_keys]
   exact hnodup
 · intro block hmem
   have hkey:block.1∈(updateLast index f s.blocks).map Prod.fst:=List.mem_map_of_mem hmem
   rw [updateLast_keys] at hkey
   obtain ⟨old,hold,hsameKey⟩:=List.mem_map.mp hkey
   rw [← hsameKey,hnext]
   exact hlt old hold
 · rw [List.flatMap_append,List.foldl_append,List.flatMap_singleton,hrender]
   change List.Forall₂ _ (updateLast index f s.blocks) _
   rw [updateLast_eq index f s.blocks hnodup]
   refine forall₂_map hblocks fun collected hmem block hboth=>?_
   obtain ⟨number,collected⟩:=collected
   obtain ⟨number',block⟩:=block
   obtain ⟨hkey,hboth⟩:=hboth
   obtain rfl : number=number':=hkey
   dsimp only at hboth ⊢
   by_cases hindex:number=index
   · subst hindex
     rw [if_pos rfl,if_pos rfl]
     exact ⟨rfl,hsame collected block hboth⟩
   · rw [if_neg hindex,if_neg hindex]
     exact ⟨rfl,hboth.transfer (hcalls number hindex) (hargs number hindex)⟩

variable {index:ℕ}

theorem Joint.grow (h:Joint env messageId model c out) {f:Collected → Collected} {delta:ContentDelta}
 (hread:∀ s:AccumulateState,s.read env.toGrokEnv event=.ok (s.update index f))
 (hrender:renderEvent env event=[.contentBlockDelta index delta]) (hargs:∀ other,argumentOf other event=none)
 (hsame:∀ collected block,Same env c (out++[event]) index collected block → Same env c (out++[event]) index (f collected) (block.push delta))
 : Joint env messageId model c (out++[event]):=by
 refine h.update index (fun s _ _=>hread s) (fun message=>?_) rfl (fun _ _ _ _=>Iff.rfl)
  (fun other _=>argumentsOf_quiet hargs other out) fun collected block hboth=>
   hsame collected block (hboth.transfer (fun _ _=>Iff.rfl) (argumentsOf_quiet hargs index out))
 rw [hrender]
 rfl

theorem Joint.started (h:Joint env messageId model c out) {collected:Collected} {block:ContentBlock}
 (hread:∀ s:AccumulateState,s.read env.toGrokEnv event=.ok (s.push c.nextIndex collected))
 (hrender:renderEvent env event=[.contentBlockStart c.nextIndex block]) (hnext:d.nextIndex=c.nextIndex+1)
 (hcalls:∀ index,index<c.nextIndex → ∀ call callName,d.calls.lookup call=some (index,callName) ↔ c.calls.lookup call=some (index,callName))
 (hargs:∀ index,argumentOf index event=none)
 (hsame:Same env d (out++[event]) c.nextIndex collected (emptyBlock block)) :
 Joint env messageId model d (out++[event]):=by
 refine h.append [(c.nextIndex,collected)] [(c.nextIndex,emptyBlock block)] hread
  (fun message _=>by rw [hrender]; rfl) (List.nodup_singleton _) ?_
  (hnext ▸ Nat.le_succ _) hcalls hargs (List.Forall₂.cons ⟨rfl,hsame⟩ List.Forall₂.nil)
 intro block hmem
 rw [List.mem_singleton.mp hmem,hnext]
 exact ⟨Nat.le_refl _,Nat.lt_succ_self _⟩

theorem Joint.search (h:Joint env messageId model c out) (hb:Bracketed c out)
 (toolId name query:String) : Joint env messageId model { c with nextIndex := c.nextIndex+2 }
  (out++[.hostedSearch c.nextIndex (c.nextIndex+1) toolId name query]):=by
 refine h.append [(c.nextIndex,.serverToolUse toolId name (searchInput query)),
  (c.nextIndex+1,.toolResult (name ++ "_tool_result") toolId)]
  [(c.nextIndex,.serverToolUse toolId name (env.writeValue (searchInput query))),
   (c.nextIndex+1,.toolResult (name ++ "_tool_result") toolId)]
  (fun s=>?_) (fun message hlt=>?_) ?_ ?_ (Nat.le_add_right _ 2) (fun _ _ _ _=>Iff.rfl)
  (fun _=>rfl) ?_
 · change Except.ok ((s.push _ _).push _ _)=_
   unfold AccumulateState.push
   dsimp only
   rw [List.append_assoc]
   rfl
 · have hkept:message.blocks.map (fun block=>if block.1=c.nextIndex then
    (block.1,block.2.push (.inputJsonDelta (env.writeValue (searchInput query)))) else block) =
     message.blocks.map id :=
    List.map_congr_left fun block hmem=>if_neg (Nat.ne_of_lt (hlt block hmem))
   change ((message.blocks++[(c.nextIndex,ClientBlock.serverToolUse toolId name "")]).map fun block=>
    if block.1=c.nextIndex then
     (block.1,block.2.push (.inputJsonDelta (env.writeValue (searchInput query)))) else block) ++
      [(c.nextIndex+1,ClientBlock.toolResult (name ++ "_tool_result") toolId)]=_
   rw [List.map_append,hkept,List.map_id,List.map_singleton,if_pos rfl,List.append_assoc]
   change _++([(c.nextIndex,ClientBlock.serverToolUse toolId name ("" ++ env.writeValue (searchInput query)))]++_)=_
   rw [String.empty_append]
   rfl
 · simp
 · intro block hmem
   rcases List.mem_cons.mp hmem with rfl | hmem
   · exact ⟨Nat.le_refl _,Nat.lt_add_of_pos_right (by decide)⟩
   · rw [List.mem_singleton.mp hmem]
     exact ⟨Nat.le_succ _,Nat.lt_succ_self _⟩
 · refine List.Forall₂.cons ⟨rfl,.search toolId name query fun call callName hopen=>?_⟩
    (List.Forall₂.cons ⟨rfl,.result _ toolId⟩ List.Forall₂.nil)
   exact Nat.lt_irrefl _ (hb.calls call c.nextIndex callName hopen).1

/-- What the stop of a tool makes of its block. -/
def settle (value:JsonValue) : Collected → Collected
 | .toolUse id name _ _=>.toolUse id name value none
 | block=>block

theorem stopTool_eq {s:AccumulateState} {value:JsonValue} (hnodup:(s.blocks.map Prod.fst).Nodup)
 (htools:∀ block∈s.blocks,block.1=index → ∀ id name input args,block.2=.toolUse id name input args → env.readValue (args.getD "\x7b\x7d")=some value)
 : s.stopTool env.toGrokEnv index=.ok (s.update index (settle value)):=by
 have hkept:(∀ block∈s.blocks,block.1=index → settle value block.2=block.2) → s.update index (settle value)=s:=by
  intro hsame
  unfold AccumulateState.update
  rw [updateLast_eq index _ s.blocks hnodup]
  have hblocks:s.blocks.map (fun block=>
   if block.1=index then (block.1,settle value block.2) else block)=s.blocks:=by
   refine (List.map_congr_left fun block hmem=>?_).trans (List.map_id s.blocks)
   split_ifs with hkey
   · exact Prod.ext rfl (hsame block hmem hkey)
   · rfl
  rw [hblocks]
 unfold AccumulateState.stopTool
 cases hfound:s.blocks.reverse.find? fun block=>decide (block.1=index) with
 | none=>
  dsimp only
  rw [hkept fun block hmem hkey=>absurd (decide_eq_true hkey)
   (List.find?_eq_none.mp hfound block (List.mem_reverse.mpr hmem))]
 | some found=>
  have hkey:found.1=index:=by simpa using List.find?_some hfound
  have hmem:found∈s.blocks:=List.mem_reverse.mp (List.mem_of_find?_eq_some hfound)
  have hunique:∀ block∈s.blocks,block.1=index → block=found:=fun block hblock hindex=>
   List.inj_on_of_nodup_map hnodup hblock hmem (hindex.trans hkey.symm)
  obtain ⟨number,collected⟩:=found
  cases collected with
  | toolUse id name input args=>
   have hread:=htools _ hmem hkey id name input args rfl
   dsimp only
   rw [show env.toGrokEnv.readValue _=some value from hread]
   dsimp only
   unfold AccumulateState.update
   rw [updateLast_eq index _ s.blocks hnodup,updateLast_eq index _ s.blocks hnodup]
   have hblocks:s.blocks.map (fun block=>if block.1=index then
    (block.1,Collected.toolUse id name value none) else block) = s.blocks.map fun block=>
     if block.1=index then (block.1,settle value block.2) else block:=by
    refine List.map_congr_left fun block hblock=>?_
    split_ifs with hindex
    · rw [hunique block hblock hindex]
      rfl
    · rfl
   rw [hblocks]
  | _=>
   dsimp only
   rw [hkept fun block hblock hindex=>by rw [hunique block hblock hindex]; rfl]

theorem Joint.stop (h:Joint env messageId model c out) (hb:Bracketed c out)
 (ha:Argued env.toGrokEnv c out) (hempty:env.readValue "" = none) {callId name:String}
 (hcall:c.calls.lookup callId=some (index,name))
 (hvalid:(env.readValue ((c.toolArgs.lookup callId).getD "")).isSome=true) :
 Joint env messageId model { c with calls := c.calls.erase callId,toolArgs := c.toolArgs.erase callId }
  (out++[.toolStop index]):=by
 rw [ha.args callId index name hcall] at hvalid
 have hvalid:(env.readValue (argumentsOf index out)).isSome=true:=hvalid
 have hne:argumentsOf index out ≠ "" := by
  intro hnone
  rw [hnone,hempty] at hvalid
  exact (nomatch hvalid)
 obtain ⟨value,hvalue⟩:=Option.isSome_iff_exists.mp hvalid
 have hraw:∀ args:Option String,args.getD "" = argumentsOf index out →
  args.getD "\x7b\x7d" = argumentsOf index out:=by
  intro args hargs
  cases args with
  | none=>exact absurd hargs.symm hne
  | some args=>exact hargs
 have herased:∀ call callName,(c.calls.erase callId).lookup call≠some (index,callName):=by
  intro call callName hsome
  obtain ⟨hid,hkept⟩:=kept_of_erase hsome
  exact hid (hb.distinct call callId index callName name hkept hcall)
 have hquiet:=@argumentsOf_quiet (.toolStop index) fun _=>rfl
 refine h.update index (f := settle value) (g := id) (fun s hnodup hpartner=>?_) (fun message=>?_)
  rfl (fun other hother call callName=>?_) (fun other _=>hquiet other out)
  fun collected block hboth=>?_
 · refine stopTool_eq hnodup fun block hmem hkey toolId toolName input args htool=>?_
   obtain ⟨other,hother⟩:=hpartner block hmem
   rw [hkey,htool] at hother
   cases hother with
   | opened _ _ _ call callName hopen hargs=>
    rw [hraw args hargs]
    exact hvalue
   | closed _ _ partialJson _ hpartial hread hclosed=>exact absurd hcall (hclosed callId name)
 · refine ((List.map_congr_left fun block _=>?_).trans (List.map_id message.blocks)).symm
   split_ifs <;> rfl
 · constructor
   · exact fun hsome=>(kept_of_erase hsome).2
   · intro hsome
     refine (AList.lookup_erase_ne ?_).trans hsome
     rintro rfl
     exact hother (Prod.mk.inj (Option.some.inj (hsome.symm.trans hcall))).1
 · cases hboth with
   | thinking thinking signature=>exact .thinking thinking signature
   | text text citations=>exact .text text citations
   | compaction content=>exact .compaction content
   | opened toolId toolName args call callName hopen hargs=>
    exact .closed toolId toolName _ value hne hvalue herased
   | closed toolId toolName partialJson input hpartial hread hclosed=>
    exact absurd hcall (hclosed callId name)
   | search searchId searchName query hclosed=>exact absurd hcall (hclosed callId name)
   | result type toolUseId=>exact .result type toolUseId

theorem Joint.move (h:Joint env messageId model c out) (hb:Bracketed c out)
 (ha:Argued env.toGrokEnv c out) (hempty:env.readValue "" = none)
 (hmove:Move env.toGrokEnv may c more d) : Joint env messageId model d (out++more):=by
 cases hmove with
 | close kind index hactive=>
  cases kind <;> exact h.quiet (fun s=>⟨s,rfl,rfl⟩) (fun _=>rfl) rfl rfl fun _=>rfl
 | start kind hactive=>
  have hcalls:∀ index,index<c.nextIndex → ∀ call callName,
   c.calls.lookup call=some (index,callName) ↔ c.calls.lookup call=some (index,callName) :=
   fun _ _ _ _=>Iff.rfl
  cases kind with
  | thinking=>exact h.started (fun _=>rfl) rfl rfl hcalls (fun _=>rfl) (.thinking "" "")
  | text=>exact h.started (fun _=>rfl) rfl rfl hcalls (fun _=>rfl) (.text "" [])
  | compaction=>exact h.started (fun _=>rfl) rfl rfl hcalls (fun _=>rfl) (.compaction "")
 | delta kind index text hactive=>
  cases kind with
  | thinking=>
   refine h.grow (fun _=>rfl) rfl (fun _=>rfl) fun collected block hboth=>?_
   cases hboth <;> constructor <;> assumption
  | text=>
   refine h.grow (fun _=>rfl) rfl (fun _=>rfl) fun collected block hboth=>?_
   cases hboth <;> constructor <;> assumption
  | compaction=>
   refine h.grow (fun _=>rfl) rfl (fun _=>rfl) fun collected block hboth=>?_
   cases hboth <;> constructor <;> assumption
 | cite index annotation hactive=>
  refine h.grow (fun _=>rfl) rfl (fun _=>rfl) fun collected block hboth=>?_
  cases hboth <;> constructor <;> assumption
 | search toolId name query hactive=>exact h.search hb toolId name query
 | call callId name hactive hnew=>
  have hself:(c.calls.insert callId (c.nextIndex,name)).lookup callId =
   some (c.nextIndex,name) := AList.lookup_insert _
  refine h.started (fun _=>rfl) rfl rfl (fun index hlt call callName=>?_) (fun _=>rfl) ?_
  · by_cases hid:call=callId
    · subst hid
      rw [hnew]
      refine iff_of_false (fun hsome=>?_) nofun
      exact Nat.ne_of_gt hlt (Prod.mk.inj (Option.some.inj (hself.symm.trans hsome))).1
    · change (c.calls.insert callId (c.nextIndex,name)).lookup call=_ ↔ _
      rw [AList.lookup_insert_ne hid]
  · have hnone:argumentsOf c.nextIndex (out++[.toolStart c.nextIndex callId name]) = "" :=
     (argumentsOf_quiet (fun _=>rfl) c.nextIndex out).trans (ha.fresh _ (Nat.le_refl _))
    have hopened:Same env { c with
     nextIndex := c.nextIndex+1
     calls := c.calls.insert callId (c.nextIndex,name)
     toolArgs := c.toolArgs.insert callId "" }
     (out++[.toolStart c.nextIndex callId name]) c.nextIndex
     (.toolUse callId name (.object []) none) (.toolUse callId name _) :=
     .opened callId name none callId name hself hnone.symm
    rw [hnone] at hopened
    exact hopened
 | argue hmay callId index name args text hcall hargs=>
  refine h.update index (fun _ _ _=>rfl) (fun _=>rfl) rfl (fun _ _ _ _=>Iff.rfl)
   (fun other hother=>?_) fun collected block hboth=>?_
  · rw [argumentsOf_delta,if_neg (Ne.symm hother)]
  · have hgrown:argumentsOf index (out++[.toolDelta index text]) = argumentsOf index out++text:=by
     rw [argumentsOf_delta,if_pos rfl]
    cases hboth with
    | thinking thinking signature=>exact .thinking thinking signature
    | text text citations=>exact .text text citations
    | compaction content=>exact .compaction content
    | opened toolId toolName old call callName hopen hown=>
     have hnew:(some (old.getD "" ++ text)).getD "" = argumentsOf index (out++[.toolDelta index text]):=by
      rw [hgrown,← hown]
      rfl
     have hopened:Same env { c with toolArgs:=c.toolArgs.insert callId (args++text) }
      (out++[.toolDelta index text]) index
      (.toolUse toolId toolName (.object []) (some (old.getD "" ++ text)))
      (.toolUse toolId toolName _) := .opened toolId toolName _ call callName hopen hnew
     rw [hgrown] at hopened
     exact hopened
    | closed toolId toolName partialJson input hpartial hread hclosed=>
     exact absurd hcall (hclosed callId name)
    | search searchId searchName query hclosed=>exact absurd hcall (hclosed callId name)
    | result type toolUseId=>exact .result type toolUseId
 | stop callId index name hcall hvalid=>exact h.stop hb ha hempty hcall hvalid
 | finish reason input output web x hactive hcalls=>
  exact h.quiet (fun s=>⟨_,rfl,rfl⟩) (fun _=>rfl) rfl rfl fun _=>rfl

theorem Joint.moves (hempty:env.readValue "" = none)
 (hmoves:Moves env.toGrokEnv may c more d) : ∀ {out:List ReducerEvent},
  Held env.toGrokEnv c out → Joint env messageId model c out → Joint env messageId model d (out++more):=by
 induction hmoves with
 | refl c=>
  intro out _ h
  rw [List.append_nil]
  exact h
 | step hgoing hmove hrest ih=>
  intro out hheld h
  rw [← List.append_assoc]
  exact ih ⟨hheld.bracketed.move hmove,hheld.argued.move hheld.bracketed hmove,
   hheld.ended.move hheld.bracketed hgoing hmove⟩ (h.move hheld.bracketed hheld.argued hempty hmove)

end joint

theorem isFinish_eq (event:ReducerEvent) : GrokStream.isFinish event=GrokBrackets.isFinish event:=by
 cases event <;> rfl

section whole
variable {env:StreamEnv} {messageId model:String}

theorem renderAll_finished (events:List ReducerEvent) : ∀ t:StreamTranslator,
 (t.renderAll env events).2.finished=(t.finished||events.any GrokStream.isFinish):=by
 induction events with
 | nil=>
  intro t
  exact (Bool.or_false _).symm
 | cons event events ih=>
  intro t
  change ((t.renderOne env event).2.renderAll env events).2.finished=_
  rw [ih,List.any_cons,← Bool.or_assoc]
  rfl

theorem renderAll_append (events more:List ReducerEvent) : ∀ t:StreamTranslator,
 t.renderAll env (events++more)=((t.renderAll env events).1 ++ ((t.renderAll env events).2.renderAll env more).1,
  ((t.renderAll env events).2.renderAll env more).2):=by
 induction events with
 | nil=>exact fun t=>rfl
 | cons event events ih=>
  intro t
  change ((t.renderOne env event).1++((t.renderOne env event).2.renderAll env (events++more)).1,
   ((t.renderOne env event).2.renderAll env (events++more)).2)=_
  rw [ih,← List.append_assoc]
  rfl

theorem renderAll_started (events:List ReducerEvent) : ∀ t:StreamTranslator,
 t.started=true → (t.renderAll env events).1=events.flatMap (renderEvent env):=by
 induction events with
 | nil=>exact fun t _=>rfl
 | cons event events ih=>
  intro t ht
  change (t.renderOne env event).1++((t.renderOne env event).2.renderAll env events).1=_
  have hone:(t.renderOne env event).1=renderEvent env event:=by
   unfold StreamTranslator.renderOne
   rw [ht]
   rfl
  have hstarted:(t.renderOne env event).2.started=true:=by
   unfold StreamTranslator.renderOne
   rw [ht]
   rfl
  rw [hone,ih _ hstarted,List.flatMap_cons]

theorem renderAll_new {events:List ReducerEvent} {b:Blocks GrokKind}
 (hread:Blocks.none.readAll (bracketsAll events)=some b) (hne:events≠[]) :
 ((StreamTranslator.new messageId model).renderAll env events).1 =
  .messageStart messageId model::events.flatMap (renderEvent env):=by
 cases events with
 | nil=>exact absurd rfl hne
 | cons event events=>
  have hstart:startsMessage event=true:=by
   have hnone:∀ bracket rest,Blocks.none.read bracket=none →
    Blocks.none.readAll (bracket::rest : List (Bracket GrokKind))≠some b:=by
    intro bracket rest hbracket hsome
    unfold Blocks.readAll at hsome
    rw [List.foldlM_cons,hbracket] at hsome
    exact (nomatch hsome)
   cases event with
   | thinkingDelta index text=>exact absurd hread (hnone _ _ rfl)
   | thinkingStop index=>exact absurd hread (hnone _ _ rfl)
   | textDelta index text=>exact absurd hread (hnone _ _ rfl)
   | textStop index=>exact absurd hread (hnone _ _ rfl)
   | compactionDelta index text=>exact absurd hread (hnone _ _ rfl)
   | compactionStop index=>exact absurd hread (hnone _ _ rfl)
   | toolDelta index text=>exact absurd hread (hnone _ _ rfl)
   | toolStop index=>exact absurd hread (hnone _ _ rfl)
   | citation index annotation=>exact absurd hread (hnone _ _ rfl)
   | _=>rfl
  change ((StreamTranslator.new messageId model).renderOne env event).1 ++
   (((StreamTranslator.new messageId model).renderOne env event).2.renderAll env events).1=_
  have hone:((StreamTranslator.new messageId model).renderOne env event).1 =
   .messageStart messageId model::renderEvent env event:=by
   unfold StreamTranslator.renderOne
   rw [hstart]
   rfl
  have hstarted:((StreamTranslator.new messageId model).renderOne env event).2.started = true:=by
   unfold StreamTranslator.renderOne
   rw [hstart]
   rfl
  rw [hone,renderAll_started events _ hstarted,List.flatMap_cons]
  rfl

theorem handleAll_reduce (events:List SseEvent) : ∀ {r:Reducer} {t:StreamTranslator}
 {out:List ReducerEvent},Held env.toGrokEnv (coreOf r) out →
  (t.finished=true → r.completed=true) → match reduceAll env.toGrokEnv r events with
   | .error error=>∃ count,(pipe env).handleAll (r,t) events=.error (count,error)
   | .ok (more,r')=>(pipe env).handleAll (r,t) events =
    .ok ((t.renderAll env more).1,r',(t.renderAll env more).2) ∧
     Held env.toGrokEnv (coreOf r') (out++more):=by
 induction events with
 | nil=>
  intro r t out h _
  exact ⟨rfl,(List.append_nil out).symm ▸ h⟩
 | cons event events ih=>
  intro r t out h hfinished
  unfold reduceAll
  cases hvalue:env.readValue event.data with
  | none=>
   refine ⟨0,?_⟩
   have hhandle:(pipe env).handle (r,t) event =
    .error (.failure "malformed Grok SSE event"):=by
    change handle env (r,t) event=_
    unfold handle
    rw [hvalue]
   rw [Pipe.handleAll,hhandle]
  | some value=>
   dsimp only
   cases hpush:r.push env.toGrokEnv value with
   | error error=>
    refine ⟨0,?_⟩
    have hhandle:(pipe env).handle (r,t) event=.error error:=by
     change handle env (r,t) event=_
     unfold handle
     rw [hvalue]
     dsimp only
     rw [hpush]
    rw [Pipe.handleAll,hhandle]
   | ok pushed=>
    obtain ⟨first,r'⟩:=pushed
    dsimp only
    obtain ⟨hgoing,typ,-,-,hmoves⟩:=push_moves hpush
    have hheld:=Held.moves hmoves h
    have hopen:t.finished=false:=by
     cases hdone:t.finished with
     | false=>rfl
     | true=>exact absurd (hgoing.symm.trans (hfinished hdone)) Bool.false_ne_true
    have hhandle:(pipe env).handle (r,t) event =
     .ok ((t.renderAll env first).1,r',(t.renderAll env first).2):=by
     change handle env (r,t) event=_
     unfold handle
     rw [hvalue]
     dsimp only
     rw [hpush]
     unfold StreamTranslator.render
     rw [hopen]
     rfl
    have hnext:(t.renderAll env first).2.finished=true → r'.completed=true:=by
     intro hdone
     rw [renderAll_finished,hopen,Bool.false_or,List.any_eq_true] at hdone
     obtain ⟨last,hmem,hlast⟩:=hdone
     cases hcompleted:r'.completed with
     | true=>rfl
     | false=>
      have hnone:=hheld.ended.going hcompleted last (List.mem_append_right out hmem)
      rw [isFinish_eq,hnone] at hlast
      cases hlast
    have hrest:=ih hheld hnext
    revert hrest
    cases reduceAll env.toGrokEnv r' events with
    | error error=>
     rintro ⟨count,hrest⟩
     refine ⟨count+1,?_⟩
     rw [Pipe.handleAll,hhandle]
     dsimp only
     rw [hrest]
    | ok rest=>
     rintro ⟨hrest,hheld⟩
     refine ⟨?_,?_⟩
     · rw [Pipe.handleAll,hhandle]
       dsimp only
       rw [hrest,renderAll_append]
     · rw [← List.append_assoc]
       exact hheld

theorem reduceAll_joint (hempty:env.readValue "" = none) (events:List SseEvent) :
 ∀ {r r':Reducer} {out more:List ReducerEvent},Held env.toGrokEnv (coreOf r) out →
  Joint env messageId model (coreOf r) out →
   reduceAll env.toGrokEnv r events=.ok (more,r') → Joint env messageId model (coreOf r') (out++more):=by
 induction events with
 | nil=>
  intro r r' out more _ h hreduce
  obtain ⟨rfl,rfl⟩:=Prod.mk.inj (Except.ok.inj hreduce)
  rw [List.append_nil]
  exact h
 | cons event events ih=>
  intro r r' out more hheld h hreduce
  unfold reduceAll at hreduce
  cases hvalue:env.readValue event.data with
  | none=>
   rw [hvalue] at hreduce
   exact (nomatch hreduce)
  | some value=>
   rw [hvalue] at hreduce
   dsimp only at hreduce
   cases hpush:r.push env.toGrokEnv value with
   | error error=>
    rw [hpush] at hreduce
    exact (nomatch hreduce)
   | ok pushed=>
    obtain ⟨first,next⟩:=pushed
    rw [hpush] at hreduce
    dsimp only at hreduce
    obtain ⟨-,typ,-,-,hmoves⟩:=push_moves hpush
    cases hrest:reduceAll env.toGrokEnv next events with
    | error error=>
     rw [hrest] at hreduce
     exact (nomatch hreduce)
    | ok rest=>
     rw [hrest] at hreduce
     obtain ⟨rfl,rfl⟩:=Prod.mk.inj (Except.ok.inj hreduce)
     have hjoint:=ih (Held.moves hmoves hheld) (h.moves hempty hmoves hheld) hrest
     rw [List.append_assoc] at hjoint
     exact hjoint

theorem joint_new : Joint env messageId model (coreOf .new) [] :=
 ⟨⟨.new,rfl,List.nodup_nil,nofun,List.Forall₂.nil⟩⟩

theorem client_kept (events:List ReducerEvent)
 (hnone:∀ event∈events,GrokBrackets.isFinish event=false) : ∀ c:ClientMessage,
  ∃ blocks,(events.flatMap (renderEvent env)).foldl ClientMessage.read c = { c with blocks := blocks }:=by
 induction events with
 | nil=>exact fun c=>⟨c.blocks,rfl⟩
 | cons event events ih=>
  intro c
  have hone:∃ blocks,(renderEvent env event).foldl ClientMessage.read c = { c with blocks := blocks }:=by
   cases event with
   | finish stop input output web x=>exact (nomatch hnone _ List.mem_cons_self)
   | _=>exact ⟨_,rfl⟩
  obtain ⟨first,hone⟩:=hone
  obtain ⟨blocks,hrest⟩:=ih (fun other hmem=>hnone other (List.mem_cons_of_mem _ hmem))
   { c with blocks := first }
  refine ⟨blocks,?_⟩
  rw [List.flatMap_cons,List.foldl_append,hone,hrest]

/-- What a stream that is accepted looks like to both. -/
structure Finished (env:StreamEnv) (messageId model:String) (events:List ReducerEvent)
 (body:List ReducerEvent) (stop:String) (input output web x:ℕ) : Prop where
 ends : events=body++[.finish stop input output web x]
 stream : ((StreamTranslator.new messageId model).renderAll env events).1 =
  .messageStart messageId model::events.flatMap (renderEvent env)
 client : ∃ blocks,(body.flatMap (renderEvent env)).foldl ClientMessage.read ⟨messageId,model,[],none,⟨0,0,0,0⟩⟩ =
  ⟨messageId,model,blocks,none,⟨0,0,0,0⟩⟩ ∧
   ∃ s,body.foldlM (AccumulateState.read env.toGrokEnv) .new=.ok s ∧
    s.blocks.map Prod.snd=blocks.map fun block=>clientContent env.toGrokEnv block.2

theorem clientInput_of_read {partialJson:String} {value:JsonValue}
 (hempty:env.readValue "" = none) (hread:env.readValue partialJson=some value) :
 clientInput env.toGrokEnv partialJson=value:=by
 have hne:¬ partialJson.isEmpty=true:=by
  intro hnone
  rw [String.isEmpty_iff.mp hnone,hempty] at hread
  exact (nomatch hread)
 unfold clientInput
 rw [if_neg hne,hread]
 rfl

theorem Same.content {c:Core} {out:List ReducerEvent} {index:ℕ} {collected:Collected}
 {block:ClientBlock} (hempty:env.readValue "" = none)
 (hround:∀ query,env.readValue (env.writeValue (searchInput query)) = some (searchInput query))
 (hclosed:∀ call callName,c.calls.lookup call≠some (index,callName))
 (h:Same env c out index collected block) : collected=clientContent env.toGrokEnv block:=by
 cases h with
 | thinking thinking signature=>rfl
 | text text citations=>rfl
 | compaction content=>rfl
 | opened id name args call callName hopen hargs=>exact absurd hopen (hclosed call callName)
 | closed id name partialJson input hne hread hnone=>
  exact congrArg (Collected.toolUse id name · none) (clientInput_of_read hempty hread).symm
 | search id name query hnone=>
  exact congrArg (Collected.serverToolUse id name) (clientInput_of_read hempty (hround query)).symm
 | result type toolUseId=>rfl

theorem finished_of_held (hempty:env.readValue "" = none)
 (hround:∀ query,env.readValue (env.writeValue (searchInput query)) = some (searchInput query))
 {c:Core} {events:List ReducerEvent} (hheld:Held env.toGrokEnv c events)
 (h:Joint env messageId model c events) (hcompleted:c.completed=true) :
 ∃ body stop input output web x,Finished env messageId model events body stop input output web x:=by
 obtain ⟨body,last,rfl,hlast,hbody,hbalanced⟩:=hheld.ended.finished hcompleted
 obtain ⟨b,hread,hb,hopened⟩:=hheld.bracketed.reads
 cases last with
 | finish stop input output web x=>
  refine ⟨body,stop,input,output,web,x,rfl,
   renderAll_new hread (List.append_ne_nil_of_right_ne_nil _ (List.cons_ne_nil _ _)),?_⟩
  obtain ⟨blocks,hclient⟩:=client_kept body hbody ⟨messageId,model,[],none,⟨0,0,0,0⟩⟩
  refine ⟨blocks,hclient,?_⟩
  obtain ⟨s,hfold,-,-,hblocks⟩:=h.collected
  rw [List.flatMap_append,List.foldl_append,hclient] at hblocks
  have hblocks:List.Forall₂ (SameAt env c (body++[.finish stop input output web x])) s.blocks blocks := hblocks
  rw [List.foldlM_append] at hfold
  cases hfoldBody:body.foldlM (AccumulateState.read env.toGrokEnv) .new with
  | error error=>
   rw [hfoldBody] at hfold
   exact (nomatch hfold)
  | ok s'=>
   rw [hfoldBody] at hfold
   obtain rfl:=Except.ok.inj hfold
   refine ⟨s',rfl,?_⟩
   have hblocks:List.Forall₂ (SameAt env c (body++[.finish stop input output web x])) s'.blocks blocks := hblocks
   have hclosed:∀ index call callName,c.calls.lookup call≠some (index,callName):=by
    intro index call callName hcall
    obtain ⟨count,hall⟩:=hbalanced
    have hsame:bracketsAll (body++[.finish stop input output web x]) = bracketsAll body:=by
     rw [bracketsAll_append,bracketsAll_single]
     exact List.append_nil _
    rw [hsame,hall] at hread
    obtain rfl:=Option.some.inj hread
    exact (nomatch (hopened index .tool).mpr (Or.inr ⟨rfl,call,callName,hcall⟩))
   have hcontent:List.Forall₂ (fun collected content=>collected=content)
    (s'.blocks.map Prod.snd)
    (blocks.map fun block=>clientContent env.toGrokEnv block.2) :=
    forall₂_map (f := Prod.snd) (g := fun block=>clientContent env.toGrokEnv block.2) hblocks
     fun collected _ block hboth=>hboth.2.content hempty hround (hclosed collected.1)
   exact List.forall₂_eq_eq_eq ▸ hcontent
 | _=>exact (nomatch hlast)

end whole

section completion
variable {env:GrokEnv} {r r':Reducer} {value:JsonValue} {out:List ReducerEvent}

theorem delta_completed (kind:ActiveKind) (text:String) : (r.delta kind text).2.completed=r.completed:=by
 unfold Reducer.delta
 split
 · split_ifs <;> rfl
 · rfl

theorem closeKind_completed (kind:ActiveKind) : (r.closeKind kind).2.completed=r.completed:=by
 unfold Reducer.closeKind
 split <;> rfl

theorem pushDelta_completed {kind:ActiveKind} {text:Option String} {message:String}
 (h:r.pushDelta kind text message=.ok (out,r')) : r'.completed=r.completed:=by
 cases text with
 | none=>exact (nomatch h)
 | some text=>
  have hsame:(out,r').2.completed=(r.delta kind text).2.completed :=
   (congrArg (fun pushed=>pushed.2.completed) (Except.ok.inj h)).symm
  exact hsame.trans (delta_completed kind text)

theorem functionCallAdded_completed (h:r.functionCallAdded value=.ok (out,r')) : r'.completed=r.completed:=by
 unfold Reducer.functionCallAdded Reducer.withCall at h
 split at h
 · exact (nomatch h)
 split at h
 · exact (nomatch h)
 grind

theorem functionCallDone_completed (h:r.functionCallDone env value=.ok (out,r')) : r'.completed=r.completed:=by
 unfold Reducer.functionCallDone at h
 split at h
 · exact (nomatch h)
 split at h
 · exact (nomatch h)
 grind

theorem itemAdded_completed (h:r.itemAdded value=.ok (out,r')) : r'.completed=r.completed:=by
 grind [Reducer.itemAdded,Reducer.customToolAdded,functionCallAdded_completed,
  Reducer.compactionAdded,Reducer.closeActive]

theorem itemDone_completed (h:r.itemDone env value=.ok (out,r')) : r'.completed=r.completed:=by
 grind [Reducer.itemDone,Reducer.customToolDone,functionCallDone_completed,
  Reducer.webSearchDone,closeKind_completed,Reducer.hosted]

theorem argumentsDelta_completed (h:r.argumentsDelta value=.ok (out,r')) : r'.completed=r.completed:=by
 grind [Reducer.argumentsDelta]

theorem argumentsDone_completed (h:r.argumentsDone value=.ok (out,r')) : r'.completed=r.completed:=by
 grind [Reducer.argumentsDone]

theorem pushTyped_completed {type:EventType} (hne:type ≠ .completed)
 (h:r.pushTyped env value type=.ok (out,r')) : r'.completed=r.completed:=by
 cases type with
 | completed=>exact absurd rfl hne
 | failed=>exact (nomatch h)
 | itemAdded=>exact itemAdded_completed h
 | itemDone=>exact itemDone_completed h
 | argumentsDelta=>exact argumentsDelta_completed h
 | argumentsDone=>exact argumentsDone_completed h
 | reasoningDelta=>exact pushDelta_completed h
 | compactionDelta=>exact pushDelta_completed h
 | textDelta=>exact pushDelta_completed h
 | _=>
  grind [Reducer.pushTyped,Reducer.customToolDelta,Reducer.annotationAdded,delta_completed,closeKind_completed]

def inputTokens (value:JsonValue) : ℕ :=
 ((member "input_tokens" (((value.get "response").getD value).get "usage")).bind JsonValue.asU64).getD 0

def Completes (env:GrokEnv) (event:SseEvent) (value:JsonValue) : Prop :=
 env.readValue event.data=some value ∧ (stringField "type" value).map eventType=some .completed

theorem push_completes (htype:(stringField "type" value).map eventType=some .completed)
 (h:r.push env value=.ok (out,r')) : ∃ stop output web x, .finish stop (inputTokens value) output web x∈out:=by
 unfold Reducer.push at h
 split_ifs at h
 cases htyped:stringField "type" value with
 | none=>
  rw [htyped] at htype
  exact (nomatch htype)
 | some typ=>
  rw [htyped] at h htype
  have hcomplete:r.complete value=.ok (out,r'):=by
   simpa only [Option.some.inj htype,Reducer.pushTyped] using h
  unfold Reducer.complete at hcomplete
  split_ifs at hcomplete
  obtain ⟨rfl,-⟩:=Prod.mk.inj (Except.ok.inj hcomplete)
  exact ⟨_,_,_,_,List.mem_append_right _ List.mem_cons_self⟩

theorem push_completed (hgoing:r.completed=false) (hcompleted:r'.completed=true) (h:r.push env value=.ok (out,r')) :
 (stringField "type" value).map eventType=some .completed:=by
 unfold Reducer.push at h
 split_ifs at h
 cases htyped:stringField "type" value with
 | none=>
  rw [htyped] at h
  exact (nomatch h)
 | some typ=>
  rw [htyped] at h
  by_contra hne
  have hkept:=pushTyped_completed (fun htype=>hne (congrArg some htype)) h
  rw [hgoing,hcompleted] at hkept
  exact (nomatch hkept)

theorem reduceAll_counts {sse:List SseEvent} (h:reduceAll env r sse=.ok (out,r')) :
 (∀ event∈sse,∀ value,Completes env event value →
  ∃ stop output web x, .finish stop (inputTokens value) output web x∈out) ∧
 (r.completed=false → r'.completed=true → ∃ event∈sse,∃ value,Completes env event value):=by
 induction sse generalizing r out with
 | nil=>
  obtain ⟨-,rfl⟩:=Prod.mk.inj (Except.ok.inj h)
  refine ⟨nofun,fun hgoing hcompleted=>?_⟩
  rw [hgoing] at hcompleted
  exact (nomatch hcompleted)
 | cons event sse ih=>
  unfold reduceAll at h
  cases hvalue:env.readValue event.data with
  | none=>
   rw [hvalue] at h
   exact (nomatch h)
  | some value=>
   rw [hvalue] at h
   dsimp only at h
   cases hpush:r.push env value with
   | error error=>
    rw [hpush] at h
    exact (nomatch h)
   | ok pushed=>
    obtain ⟨first,s⟩:=pushed
    rw [hpush] at h
    dsimp only at h
    cases hrest:reduceAll env s sse with
    | error error=>
     rw [hrest] at h
     exact (nomatch h)
    | ok reduced=>
     obtain ⟨more,s'⟩:=reduced
     rw [hrest] at h
     obtain ⟨rfl,rfl⟩:=Prod.mk.inj (Except.ok.inj h)
     obtain ⟨hcounts,hfound⟩:=ih hrest
     refine ⟨fun other hmem value' hcompletes=>?_,fun hgoing hcompleted=>?_⟩
     · rcases List.mem_cons.mp hmem with rfl | hmem
       · obtain rfl:=Option.some.inj (hvalue.symm.trans hcompletes.1)
         obtain ⟨stop,output,web,x,hfinish⟩:=push_completes hcompletes.2 hpush
         exact ⟨stop,output,web,x,List.mem_append_left _ hfinish⟩
       · obtain ⟨stop,output,web,x,hfinish⟩:=hcounts other hmem value' hcompletes
         exact ⟨stop,output,web,x,List.mem_append_right _ hfinish⟩
     · cases hs:s.completed with
       | true=>
        exact ⟨event,List.mem_cons_self,value,hvalue,push_completed hgoing hs hpush⟩
       | false=>
        obtain ⟨other,hmem,hcompletes⟩:=hfound hs hcompleted
        exact ⟨other,List.mem_cons_of_mem event hmem,hcompletes⟩

end completion

structure Agree (env:StreamEnv) (messageId model:String) (input:List UInt8) : Prop where
 succeed : (∃ stream,translateStream env input messageId model=.ok stream) ↔
  ∃ message,accumulateResponse env input messageId model=.ok message
 same : ∀ stream message,translateStream env input messageId model=.ok stream →
  accumulateResponse env input messageId model=.ok message → clientMessage env.toGrokEnv stream=message

def NoInputTokens (env:StreamEnv) (input:List UInt8) : Prop :=
 ∀ sse decoder,(pipe env).readAll .new input=.ok (sse,decoder) →
  ∀ event∈sse,∀ value,Completes env.toGrokEnv event value → inputTokens value=0

theorem reduceUpstreamBytes_read {env:StreamEnv} {input:List UInt8}
 {events:List ReducerEvent} (h:reduceUpstreamBytes env input=.ok events) :
 ∃ sse decoder r,(pipe env).readAll .new input=.ok (sse,decoder) ∧
  reduceAll env.toGrokEnv .new sse=.ok (events,r) ∧ r.completed=true:=by
 unfold reduceUpstreamBytes at h
 cases hread:(pipe env).readAll .new input with
 | error failure=>
  rw [hread] at h
  exact (nomatch h)
 | ok decoded=>
  obtain ⟨sse,decoder⟩:=decoded
  rw [hread] at h
  dsimp only at h
  cases hreduce:reduceAll env.toGrokEnv .new sse with
  | error error=>
   rw [hreduce] at h
   exact (nomatch h)
  | ok reduced=>
   obtain ⟨out,r⟩:=reduced
   rw [hreduce] at h
   dsimp only at h
   cases hfinish:decoder.finish with
   | error error=>
    rw [hfinish] at h
    exact (nomatch h)
   | ok _=>
    rw [hfinish] at h
    dsimp only at h
    split_ifs at h with hcompleted
    obtain rfl:=Except.ok.inj h
    exact ⟨sse,decoder,r,rfl,hreduce,hcompleted⟩

theorem translate_cases (env:StreamEnv) (messageId model:String) (input:List UInt8) (hempty:env.readValue "" = none) :
 (∃ error,reduceUpstreamBytes env input=.error error ∧ translateStream env input messageId model=.error error) ∨
 ∃ events c,reduceUpstreamBytes env input=.ok events ∧
  translateStream env input messageId model = .ok ((StreamTranslator.new messageId model).renderAll env events).1 ∧
  Held env.toGrokEnv c events ∧ Joint env messageId model c events ∧ c.completed=true:=by
 unfold reduceUpstreamBytes translateStream Pipe.push
 cases hread:(pipe env).readAll .new input with
 | error failure=>
  have hread':(pipe env).readAll (newTranslator messageId model).decoder input =
   .error failure := hread
  rw [hread']
  exact Or.inl ⟨failure.2,rfl,rfl⟩
 | ok decoded=>
  obtain ⟨sse,decoder⟩:=decoded
  have hread':(pipe env).readAll (newTranslator messageId model).decoder input =
   .ok (sse,decoder) := hread
  have hhandle:=handleAll_reduce sse (held_new env.toGrokEnv)
   (nofun:(StreamTranslator.new messageId model).finished=true → _)
  rw [hread']
  dsimp only
  cases hreduce:reduceAll env.toGrokEnv .new sse with
  | error error=>
   rw [hreduce] at hhandle
   obtain ⟨count,hhandle⟩:=hhandle
   have hhandle':(pipe env).handleAll (newTranslator messageId model).handler sse =
    .error (count,error) := hhandle
   rw [hhandle']
   exact Or.inl ⟨error,rfl,rfl⟩
  | ok reduced=>
   obtain ⟨events,r⟩:=reduced
   rw [hreduce] at hhandle
   obtain ⟨hhandle,hheld⟩:=hhandle
   have hhandle':(pipe env).handleAll (newTranslator messageId model).handler sse =
    .ok _ := hhandle
   rw [hhandle']
   dsimp only
   unfold finishTranslator
   dsimp only
   cases decoder.finish with
   | error error=>exact Or.inl ⟨error,rfl,rfl⟩
   | ok _=>
    dsimp only
    cases hcompleted:r.completed with
    | false=>exact Or.inl ⟨_,rfl,rfl⟩
    | true=>
     exact Or.inr ⟨events,coreOf r,rfl,rfl,hheld,
      reduceAll_joint hempty sse (held_new env.toGrokEnv) joint_new hreduce,hcompleted⟩

section finished
variable {env:StreamEnv} {messageId model:String} {events body:List ReducerEvent}
variable {stop:String} {tokens output web x:ℕ}

theorem Finished.messages (h:Finished env messageId model events body stop tokens output web x)
 {input:List UInt8} (hreduce:reduceUpstreamBytes env input=.ok events) :
 ∃ content,accumulateResponse env input messageId model =
  .ok ⟨messageId,model,content,some stop,⟨tokens,output,web+x,x⟩⟩ ∧
  clientMessage env.toGrokEnv (.messageStart messageId model::events.flatMap (renderEvent env)) =
   ⟨messageId,model,content,some stop,⟨0,output,web+x,x⟩⟩:=by
 obtain ⟨rfl,-,blocks,hclient,s,hfold,hcontent⟩:=h
 refine ⟨s.blocks.map Prod.snd,?_,?_⟩
 · unfold accumulateResponse
   rw [hreduce]
   dsimp only
   rw [List.foldlM_append,hfold]
   rfl
 · unfold clientMessage
   rw [List.foldl_cons,List.flatMap_append,List.foldl_append]
   have hbody:(body.flatMap (renderEvent env)).foldl ClientMessage.read
    (ClientMessage.nothing.read (.messageStart messageId model)) =
     ⟨messageId,model,blocks,none,⟨0,0,0,0⟩⟩ := hclient
   rw [hbody,hcontent]
   rfl

theorem Finished.tokens_eq (h:Finished env messageId model events body stop tokens output web x)
 {c:Core} (hheld:Held env.toGrokEnv c events) (hcompleted:c.completed=true)
 (stop':String) (tokens' output' web' x':ℕ)
 (hmem:.finish stop' tokens' output' web' x'∈events) : tokens'=tokens:=by
 obtain ⟨body',last,hlast,-,hbody,-⟩:=hheld.ended.finished hcompleted
 rw [h.ends] at hlast hmem
 rcases List.mem_append.mp hmem with hmem | hmem
 · obtain ⟨rfl,-⟩:=List.append_inj' hlast rfl
   exact (nomatch hbody _ hmem)
 · exact (ReducerEvent.finish.inj (List.mem_singleton.mp hmem)).2.1

end finished

/-- The stream and the message agree exactly if upstream fails or counts no input. -/
theorem grok_agrees_iff (env:StreamEnv) (messageId model:String) (input:List UInt8) (hempty:env.readValue "" = none)
    (hround:∀ query,env.readValue (env.writeValue (searchInput query)) = some (searchInput query)) :
    Agree env messageId model input ↔
      (∃ error,reduceUpstreamBytes env input=.error error) ∨ NoInputTokens env input:=by
  rcases translate_cases env messageId model input hempty with
    ⟨error,hreduce,htranslate⟩ | ⟨events,c,hreduce,htranslate,hheld,hjoint,hcompleted⟩
  · have haccumulate:accumulateResponse env input messageId model=.error error:=by
      unfold accumulateResponse
      rw [hreduce]
    refine iff_of_true ⟨iff_of_false ?_ ?_,?_⟩ (Or.inl ⟨error,hreduce⟩)
    · rintro ⟨stream,hstream⟩
      exact (nomatch htranslate.symm.trans hstream)
    · rintro ⟨message,hmessage⟩
      exact (nomatch haccumulate.symm.trans hmessage)
    · intro stream message hstream
      exact (nomatch htranslate.symm.trans hstream)
  · obtain ⟨body,stop,tokens,output,web,x,hfinished⟩ :=
      finished_of_held hempty hround hheld hjoint hcompleted
    obtain ⟨content,haccumulate,hmessage⟩:=hfinished.messages hreduce
    rw [hfinished.stream] at htranslate
    have hsame:clientMessage env.toGrokEnv
        (.messageStart messageId model::events.flatMap (renderEvent env)) =
          ⟨messageId,model,content,some stop,⟨tokens,output,web+x,x⟩⟩ ↔ tokens=0:=by
      rw [hmessage]
      constructor
      · intro hboth
        exact (congrArg (fun message=>message.usage.inputTokens) hboth).symm
      · rintro rfl
        rfl
    have hfinish:=hfinished.tokens_eq hheld hcompleted
    obtain ⟨sse,decoder,r,hread,hall,hended⟩:=reduceUpstreamBytes_read hreduce
    obtain ⟨hcounts,hfound⟩:=reduceAll_counts hall
    constructor
    · intro h
      have hzero:=hsame.mp (h.same _ _ htranslate haccumulate)
      refine Or.inr fun sse' decoder' hread' event hmem value hcompletes=>?_
      obtain ⟨rfl,-⟩:=Prod.mk.inj (Except.ok.inj (hread.symm.trans hread'))
      obtain ⟨stop',output',web',x',hcount⟩:=hcounts event hmem value hcompletes
      exact (hfinish _ _ _ _ _ hcount).trans hzero
    · rintro (⟨error,herror⟩ | h)
      · exact (nomatch hreduce.symm.trans herror)
      obtain ⟨event,hmem,value,hcompletes⟩:=hfound rfl hended
      obtain ⟨stop',output',web',x',hcount⟩:=hcounts event hmem value hcompletes
      have hzero:tokens=0 :=
        (hfinish _ _ _ _ _ hcount).symm.trans (h sse decoder hread event hmem value hcompletes)
      refine ⟨iff_of_true ⟨_,htranslate⟩ ⟨_,haccumulate⟩,
        fun stream message hstream hmessage=>?_⟩
      obtain rfl:=Except.ok.inj (htranslate.symm.trans hstream)
      obtain rfl:=Except.ok.inj (haccumulate.symm.trans hmessage)
      exact hsame.mpr hzero

def queryOpening : List Char := "\x7b\"query\":\"".toList

def readQuoted : ℕ → List Char → Option (List Char)
 | 0,_=>none
 | fuel+1,text=>
  if text.head?=some '"' then if text.tail=['\x7d'] then some [] else none
  else (StableJson.unescape text).bind fun read=>
   (readQuoted fuel read.2).map fun chars=>read.1::chars

theorem readQuoted_escaped (chars:List Char) : ∀ fuel,chars.length<fuel →
 readQuoted fuel (chars.flatMap StableJson.escape++['"','\x7d'])=some chars:=by
 induction chars with
 | nil=>
  intro fuel hfuel
  obtain ⟨fuel,rfl⟩:=Nat.exists_eq_succ_of_ne_zero (Nat.ne_of_gt hfuel)
  rfl
 | cons char chars ih=>
  intro fuel hfuel
  obtain ⟨fuel,rfl⟩:=Nat.exists_eq_succ_of_ne_zero (Nat.ne_of_gt ((Nat.zero_le _).trans_lt hfuel))
  obtain ⟨symbol,tail,hword,hopen⟩:=StableJson.escape_opens char
  have hne:¬ ((char::chars).flatMap StableJson.escape++['"','\x7d']).head?=some '"' := by
   rw [List.flatMap_cons,hword]
   exact fun hhead=>hopen (Option.some.inj hhead)
  rw [readQuoted,if_neg hne,List.flatMap_cons,List.append_assoc,StableJson.unescape_escape,
   Option.bind_some,ih fuel (Nat.lt_of_succ_lt_succ hfuel)]
  rfl

def plainText : List Char := "\x7b\"type\":\"response.completed\"\x7d".toList

def countedText : List Char :=
 "\x7b\"type\":\"response.completed\",\"usage\":\x7b\"input_tokens\":3\x7d\x7d".toList

def plain : JsonValue := .object [("type",.string "response.completed")]

def counted : JsonValue :=
 .object [("type",.string "response.completed"),("usage",.object [("input_tokens",.number "3")])]

def completionEnv : StreamEnv where
 readValue text :=
  if text.toList.take 10=queryOpening then
   (readQuoted text.toList.length (text.toList.drop 10)).map fun query=>
    searchInput (String.ofList query)
  else if text.toList=plainText then some plain
  else if text.toList=countedText then some counted
  else none
 fromUtf8 := sampleEnv.fromUtf8
 writeValue := sampleEnv.writeValue

theorem completionEnv_reads :
 completionEnv.readValue (String.ofList plainText)=some plain ∧
  completionEnv.readValue (String.ofList countedText)=some counted:=by
 have hquery:queryOpening=_:=String.toList_ofList
 have hplain:plainText=_:=String.toList_ofList
 have hcounted:countedText=_:=String.toList_ofList
 unfold completionEnv
 dsimp only
 rw [String.toList_ofList,String.toList_ofList]
 constructor
 · rw [if_neg (by rw [hquery,hplain]; decide),if_pos rfl]
 · rw [if_neg (by rw [hquery,hcounted]; decide),if_neg (by rw [hplain,hcounted]; decide),
    if_pos rfl]

theorem completionEnv_empty : completionEnv.readValue "" = none:=by
 have hquery:queryOpening=_:=String.toList_ofList
 have hplain:plainText=_:=String.toList_ofList
 have hcounted:countedText=_:=String.toList_ofList
 unfold completionEnv
 dsimp only
 rw [if_neg (by rw [hquery]; decide),if_neg (by rw [hplain]; decide),
  if_neg (by rw [hcounted]; decide)]

theorem completionEnv_round (query:String) :
 completionEnv.readValue (completionEnv.writeValue (searchInput query)) = some (searchInput query):=by
 have hquery:queryOpening=_:=String.toList_ofList
 have hkey:StableJson.quote "query" = ['"','q','u','e','r','y','"']:=by
  unfold StableJson.quote
  rw [show "query".toList=_ from String.toList_ofList]
  decide
 have htext:StableJson.stableJson (searchInput query) =
  queryOpening++(query.toList.flatMap StableJson.escape++['"','\x7d']):=by
  unfold searchInput
  rw [StableJson.stableJson,StableJson.stableMembers,StableJson.stableMembers,StableJson.stableJson,hquery]
  change '\x7b' :: (StableJson.quote "query" ++ ':' :: StableJson.quote query)++['\x7d']=_
  rw [hkey,StableJson.quote]
  simp
 have hlength:query.toList.length < (queryOpening++(query.toList.flatMap StableJson.escape++['"','\x7d'])).length:=by
  have hescaped:∀ chars:List Char,chars.length ≤ (chars.flatMap StableJson.escape).length:=by
   intro chars
   induction chars with
   | nil=>exact Nat.le_refl 0
   | cons char chars ih=>
    obtain ⟨symbol,tail,hword,-⟩:=StableJson.escape_opens char
    rw [List.flatMap_cons,hword,List.length_append,List.length_cons,List.length_cons]
    omega
  have:=hescaped query.toList
  rw [List.length_append,List.length_append,List.length_cons]
  omega
 have hopening:queryOpening.length=10:=by
  rw [hquery]
  rfl
 unfold completionEnv sampleEnv
 dsimp only
 rw [String.toList_ofList,htext,if_pos (by rw [← hopening,List.take_left]),
  show (queryOpening++_).drop 10=_ from hopening ▸ List.drop_left,
  readQuoted_escaped _ _ hlength,Option.map_some,String.ofList_toList]

def lineOf (text:List Char) : List UInt8 := SseEvents.bytesOf ("data: ".toList++text)

theorem readAll_lineOf {text:List Char}
 (hprinted:("data: ".toList++text).all (fun char=>32 ≤ char.toNat && char.toNat<128)=true)
 (hlength:0<("data: ".toList++text).length ∧ ("data: ".toList++text).length<100)
 (hlines:linesOf ("data: ".toList++text++['\n'])=["data: ".toList++text]) :
 (pipe completionEnv).readAll .new (lineOf text++[10,10]) =
  .ok ([⟨none,String.ofList text⟩],.new):=by
 obtain ⟨hchars,hplain,hbytes⟩:=ascii_line hprinted
 rw [← hbytes] at hlength
 refine readAll_frame completionEnv hplain hlength.1.ne' (hlength.2.trans (by decide)) ?_
 have hline:(lineOf text++[10]).map (fun byte:UInt8=>Char.ofNat byte.toNat)="data: ".toList++text++['\n']:=by
  unfold lineOf
  rw [List.map_append,hchars]
  rfl
 unfold parseFrame completionEnv sampleEnv
 dsimp only
 rw [hline,String.toList_ofList,hlines,List.foldl_cons,readLine_data]
 simp [List.intercalate]

theorem plain_read : (pipe completionEnv).readAll .new (lineOf plainText++[10,10]) =
 .ok ([⟨none,String.ofList plainText⟩],.new):=by
 have hplain:plainText=_:=String.toList_ofList
 have hdata : "data: ".toList=_:=String.toList_ofList
 refine readAll_lineOf ?_ ?_ ?_ <;> rw [hplain,hdata] <;> decide

theorem counted_read : (pipe completionEnv).readAll .new (lineOf countedText++[10,10]) =
 .ok ([⟨none,String.ofList countedText⟩],.new):=by
 have hcounted:countedText=_:=String.toList_ofList
 have hdata : "data: ".toList=_:=String.toList_ofList
 refine readAll_lineOf ?_ ?_ ?_ <;> rw [hcounted,hdata] <;> decide

/-- A completion that counts nothing. -/
theorem grok_agrees_iff_plain : Agree completionEnv "m" "grok" (lineOf plainText++[10,10]):=by
  refine (grok_agrees_iff completionEnv "m" "grok" (lineOf plainText++[10,10])
    completionEnv_empty completionEnv_round).mpr (Or.inr ?_)
  intro sse decoder hread event hmem value hcompletes
  obtain ⟨rfl,-⟩:=Prod.mk.inj (Except.ok.inj (plain_read.symm.trans hread))
  obtain rfl:=List.mem_singleton.mp hmem
  obtain rfl:=Option.some.inj (completionEnv_reads.1.symm.trans hcompletes.1)
  rfl

/-- The message has the three tokens of input, the stream has none. -/
theorem input_tokens_not_streamed :
    ¬ ∀ (env:StreamEnv) (messageId model:String) (input:List UInt8),
      env.readValue "" = none →
        (∀ query,env.readValue (env.writeValue (searchInput query))=some (searchInput query)) →
          Agree env messageId model input:=by
  intro h
  have hagree:=h completionEnv "m" "grok" (lineOf countedText++[10,10]) completionEnv_empty completionEnv_round
  have hvalue:=completionEnv_reads.2
  obtain ⟨stream,hstream,htranslated⟩ : ∃ stream,
      translateStream completionEnv (lineOf countedText++[10,10]) "m" "grok" = .ok stream ∧
        (clientMessage completionEnv.toGrokEnv stream).usage.inputTokens=0:=by
    have hread:(pipe completionEnv).readAll (newTranslator "m" "grok").decoder
      (lineOf countedText++[10,10])=.ok ([⟨none,String.ofList countedText⟩],.new) :=
        counted_read
    have hhandle:∃ handler,(pipe completionEnv).handle (newTranslator "m" "grok").handler
        ⟨none,String.ofList countedText⟩=.ok ([.messageStart "m" "grok",
          .messageDelta "end_turn" 0 0 0,.messageStop],handler) ∧ handler.1.completed=true:=by
      have hpipe:(pipe completionEnv).handle=handle completionEnv:=rfl
      rw [hpipe]
      unfold handle
      dsimp only
      rw [hvalue]
      exact ⟨_,rfl,rfl⟩
    obtain ⟨handler,hhandle,hcompleted⟩:=hhandle
    refine ⟨[.messageStart "m" "grok",.messageDelta "end_turn" 0 0 0,.messageStop],?_,rfl⟩
    unfold translateStream Pipe.push
    rw [hread]
    dsimp only
    rw [Pipe.handleAll,hhandle]
    dsimp only
    rw [Pipe.handleAll]
    unfold finishTranslator
    dsimp only
    rw [hcompleted]
    rfl
  obtain ⟨message,hmessage,haccumulated⟩ : ∃ message,
      accumulateResponse completionEnv (lineOf countedText++[10,10]) "m" "grok" = .ok message ∧
        message.usage.inputTokens=3:=by
    unfold accumulateResponse reduceUpstreamBytes
    rw [counted_read]
    dsimp only
    rw [reduceAll,hvalue]
    exact ⟨_,rfl,rfl⟩
  rw [hagree.same stream message hstream hmessage,haccumulated] at htranslated
  cases htranslated

end CursorProxy.GrokAgreement
