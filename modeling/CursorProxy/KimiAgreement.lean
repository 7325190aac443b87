import CursorProxy.KimiBrackets

/-! A client of the stream collects the blocks of the message; only the input of a tool can
differ. -/
namespace CursorProxy.KimiAgreement
open BlockBrackets JsonValues KimiBrackets KimiReducer KimiStream KimiToolCalls

inductive ClientBlock where
 | thinking (thinking signature:String)
 | text (text:String)
 | toolUse (id name partialJson:String)

/-- A delta of another kind than its block adds nothing. -/
def ClientBlock.push : ContentDelta → ClientBlock → ClientBlock
 | .thinkingDelta more, .thinking old signature=>.thinking (old++more) signature
 | .signatureDelta more, .thinking old signature=>.thinking old (signature++more)
 | .textDelta more, .text old=>.text (old++more)
 | .inputJsonDelta more, .toolUse id name old=>.toolUse id name (old++more)
 | _,block=>block

def emptyBlock : ContentBlock → ClientBlock
 | .thinking=>.thinking "" ""
 | .text=>.text ""
 | .toolUse id name=>.toolUse id name ""

structure ClientMessage where
 id : String
 model : String
 blocks : List (ℕ×ClientBlock)
 stopReason : Option String
 usage : AnthropicUsage

namespace ClientMessage

def nothing : ClientMessage := ⟨"","",[],none,.default⟩

/-- The usage of the last event overrides that of the first. -/
def read (c:ClientMessage) : StreamEvent → ClientMessage
 | .messageStart messageId model=>⟨messageId,model,[],none,.default⟩
 | .contentBlockStart index block=>{ c with blocks := c.blocks++[(index,emptyBlock block)] }
 | .contentBlockDelta index delta=>
  { c with blocks := c.blocks.map fun block=>
     if block.1=index then (block.1,block.2.push delta) else block }
 | .contentBlockStop _=>c
 | .messageDelta stopReason usage=>{ c with stopReason := some stopReason,usage := usage }
 | .messageStop=>c

end ClientMessage

/-- What the client keeps of an input that is not JSON is left open. -/
def clientInput (renv:RenderEnv) (malformed:String → JsonValue) (partialJson:String) : JsonValue :=
 if partialJson.isEmpty then .object []
 else (renv.readValue partialJson).getD (malformed partialJson)

def clientContent (renv:RenderEnv) (malformed:String → JsonValue) : ClientBlock → MessageBlock
 | .thinking thinking signature=>.thinking thinking signature
 | .text text=>.text text
 | .toolUse id name partialJson=>
  .toolUse id name (clientInput renv malformed partialJson)

def clientMessage (renv:RenderEnv) (malformed:String → JsonValue) (stream:List StreamEvent) : Message :=
 let c:=stream.foldl ClientMessage.read .nothing
 { id := c.id
   model := c.model
   content := c.blocks.map fun block=>clientContent renv malformed block.2
   stopReason := c.stopReason
   usage := c.usage }

def startedOf : ReducerEvent → Option AccumulatedBlock
 | .thinkingStart index=>some ⟨index,.thinking ""⟩
 | .textStart index=>some ⟨index,.text ""⟩
 | .toolStart index id name=>some ⟨index,.tool id name ""⟩
 | _=>none

def deltaOf (index:ℕ) : ReducerEvent → Option String
 | .thinkingDelta other text=>if other=index then some text else none
 | .textDelta other text=>if other=index then some text else none
 | .toolDelta other partialJson=>if other=index then some partialJson else none
 | _=>none

def startsOf (events:List ReducerEvent) : List AccumulatedBlock := events.filterMap startedOf

def spokenOf (index:ℕ) (events:List ReducerEvent) : String :=
 String.join (events.filterMap (deltaOf index))

def fill (text:String) : Accumulated → Accumulated
 | .thinking _=>.thinking text
 | .text _=>.text text
 | .tool id name _=>.tool id name text

def filled (events:List ReducerEvent) (block:AccumulatedBlock) : AccumulatedBlock :=
 ⟨block.index,fill (spokenOf block.index events) block.kind⟩

def kindOf : Accumulated → BlockKind
 | .thinking _=>.thinking
 | .text _=>.text
 | .tool _ _ _=>.tool

def clientBlock (renv:RenderEnv) (messageId:String) (b:Blocks BlockKind) (block:AccumulatedBlock) : ℕ×ClientBlock :=
 (block.index,match block.kind with
  | .thinking text=>.thinking text (if b.opened block.index=some .thinking then ""
    else renv.makeThinkingSignature messageId block.index)
  | .text text=>.text text
  | .tool id name args=>.toolUse id name args)

theorem updateLast_eq (index:ℕ) (f:Accumulated → Accumulated) (blocks:List AccumulatedBlock)
  (hnodup:(blocks.map AccumulatedBlock.index).Nodup) : updateLast index f blocks =
   blocks.map fun block=>if block.index=index then ⟨block.index,f block.kind⟩ else block:=by
 induction blocks with
 | nil=>rfl
 | cons block blocks ih=>
  obtain ⟨hfresh,hrest⟩:=List.nodup_cons.mp hnodup
  have hsame:block.index=index → blocks.map (fun block=>
    if block.index=index then (⟨block.index,f block.kind⟩ : AccumulatedBlock) else block) =
     blocks:=by
   intro hindex
   calc blocks.map _=blocks.map id := List.map_congr_left fun other hmem=>if_neg fun hother=>
         hfresh (List.mem_map.mpr ⟨other,hmem,hother.trans hindex.symm⟩)
    _=blocks := List.map_id blocks
  rw [updateLast,List.map_cons,ih hrest]
  by_cases hindex:block.index=index
  · have hany:(blocks.any fun other=>decide (other.index=index))=false :=
     List.any_eq_false.mpr fun other hmem hother=>hfresh (List.mem_map.mpr
      ⟨other,hmem,(of_decide_eq_true hother).trans hindex.symm⟩)
    rw [hany,if_neg Bool.false_ne_true,if_pos hindex,if_pos hindex,hsame hindex]
  · rw [if_neg hindex,if_neg hindex]
    cases hany:blocks.any fun other=>decide (other.index=index) with
    | true=>rw [if_pos rfl]
    | false=>
     rw [if_neg Bool.false_ne_true]
     refine congrArg (block :: ·) ?_
     calc blocks=blocks.map id := (List.map_id blocks).symm
      _=_ := List.map_congr_left fun other hmem=>(if_neg fun hother=>
       List.any_eq_false.mp hany other hmem (decide_eq_true hother)).symm

/-- The blocks of the message, and what the client has of them. -/
structure Folded (renv:RenderEnv) (messageId model:String) (events:List ReducerEvent)
  (b:Blocks BlockKind) : Prop where
 numbered : (startsOf events).map AccumulatedBlock.index=List.range b.next
 quiet : ∀ index,b.next ≤ index → spokenOf index events = ""
 kinds : ∀ index kind,b.opened index=some kind → index<b.next ∧
  ∀ block∈startsOf events,block.index=index → kindOf block.kind=kind
 message : events.foldl AccumulateState.read ⟨[],none,none⟩ = ⟨(startsOf events).map (filled events),none,none⟩
 client : (events.flatMap (partsOf renv messageId)).foldl ClientMessage.read
   ⟨messageId,model,[],none,.default⟩=⟨messageId,model,
  ((startsOf events).map (filled events)).map (clientBlock renv messageId b),none,.default⟩

theorem startsOf_append (events more:List ReducerEvent) :
  startsOf (events++more)=startsOf events++startsOf more := List.filterMap_append

theorem spokenOf_append (index:ℕ) (events more:List ReducerEvent) :
  spokenOf index (events++more)=spokenOf index events++spokenOf index more:=by
 unfold spokenOf
 rw [List.filterMap_append]
 exact String.join_append

variable {renv:RenderEnv} {messageId:String}

theorem clientBlock_congr {b c:Blocks BlockKind} {block:AccumulatedBlock}
  (h:b.opened block.index=some .thinking ↔ c.opened block.index=some .thinking) :
  clientBlock renv messageId b block=clientBlock renv messageId c block:=by
 unfold clientBlock
 rw [if_congr h rfl rfl]

section reading
variable {renv:RenderEnv} {messageId model:String} {events:List ReducerEvent} {b c:Blocks BlockKind}

theorem Folded.index_lt (h:Folded renv messageId model events b) {block:AccumulatedBlock}
  (hmem:block∈startsOf events) : block.index<b.next:=by
 have hrange:block.index∈(startsOf events).map AccumulatedBlock.index :=
  List.mem_map_of_mem hmem
 rw [h.numbered] at hrange
 exact List.mem_range.mp hrange

theorem Folded.start (h:Folded renv messageId model events b) {event:ReducerEvent}
  (block:AccumulatedBlock) (hstarted:startedOf event=some block)
  (hbracket:b.read (.start block.index (kindOf block.kind))=some c) (hdelta:∀ index,deltaOf index event=none)
  (hfill:fill "" block.kind=block.kind)
  (hread:∀ s:AccumulateState,s.read event={ s with blocks := s.blocks++[block] })
  (hclient:∀ s:ClientMessage,(partsOf renv messageId event).foldl ClientMessage.read s =
   { s with blocks := s.blocks++[clientBlock renv messageId c block] }) :
  Folded renv messageId model (events++[event]) c:=by
 obtain ⟨hindex,hc⟩:=Blocks.of_read_start hbracket
 have hstarts:startsOf (events++[event])=startsOf events++[block]:=by
  rw [startsOf_append]
  unfold startsOf
  rw [List.filterMap_cons,hstarted]
  rfl
 have hspoken:∀ index,spokenOf index (events++[event])=spokenOf index events:=by
  intro index
  unfold spokenOf
  rw [List.filterMap_append,List.filterMap_cons,hdelta,List.filterMap_nil,List.append_nil]
 have hfilled:(startsOf (events++[event])).map (filled (events++[event])) =
   (startsOf events).map (filled events)++[block]:=by
  have hsame:filled (events++[event])=filled events:=by
   funext other
   unfold filled
   rw [hspoken]
  have hblock:filled events block=block:=by
   unfold filled
   rw [h.quiet _ (Nat.le_of_eq hindex.symm),hfill]
  rw [hstarts,hsame,List.map_append,List.map_cons,List.map_nil,hblock]
 have hopened:∀ index,index≠b.next → c.opened index=b.opened index:=by
  intro index hother
  rw [hc,hindex]
  exact Function.update_of_ne hother _ _
 have hsame:((startsOf events).map (filled events)).map (clientBlock renv messageId b) =
   ((startsOf events).map (filled events)).map (clientBlock renv messageId c):=by
  rw [List.map_map,List.map_map]
  refine List.map_congr_left fun other hmem=>clientBlock_congr ?_
  change b.opened other.index=_ ↔ c.opened other.index=_
  rw [hopened _ (Nat.ne_of_lt (h.index_lt hmem))]
 refine ⟨?_,?_,?_,?_,?_⟩
 · rw [hstarts,List.map_append,h.numbered,hc,List.range_succ,← hindex]
   rfl
 · intro index hle
   rw [hspoken]
   rw [hc] at hle
   exact h.quiet index (Nat.le_of_succ_le hle)
 · intro index kind hopen
   rw [hstarts]
   by_cases hnew:index=b.next
   · subst hnew
     rw [hc,← hindex] at hopen
     have hself:Function.update b.opened block.index (some (kindOf block.kind)) block.index = some kind := hopen
     rw [Function.update_self] at hself
     obtain rfl:=Option.some.inj hself
     refine ⟨by rw [hc]; exact Nat.lt_succ_self _,fun other hmem hother=>?_⟩
     rcases List.mem_append.mp hmem with hmem | hmem
     · exact absurd hother (Nat.ne_of_lt (h.index_lt hmem))
     · obtain rfl:=List.mem_singleton.mp hmem
       rfl
   · rw [hopened _ hnew] at hopen
     obtain ⟨hlt,hkind⟩:=h.kinds index kind hopen
     refine ⟨by rw [hc]; exact Nat.lt_succ_of_lt hlt,fun other hmem hother=>?_⟩
     rcases List.mem_append.mp hmem with hmem | hmem
     · exact hkind other hmem hother
     · obtain rfl:=List.mem_singleton.mp hmem
       exact absurd (hother.symm.trans hindex) hnew
 · rw [List.foldl_append,h.message,hfilled]
   exact hread _
 · rw [List.flatMap_append,List.foldl_append,h.client,List.flatMap_singleton,hclient,hfilled,List.map_append,hsame]
   rfl

theorem Folded.delta (h:Folded renv messageId model events b) {event:ReducerEvent}
  {index:ℕ} {kind:BlockKind} {text:String} {push:Accumulated → Accumulated}
  {delta:ContentDelta} (hbracket:b.read (.delta index kind)=some c) (hstarted:startedOf event=none)
  (hdelta:∀ other,deltaOf other event=if index=other then some text else none)
  (hread:∀ s:AccumulateState,s.read event =
   { s with blocks := updateLast index push s.blocks })
  (hparts:partsOf renv messageId event=[.contentBlockDelta index delta])
  (hpush:∀ old block,kindOf block=kind → push (fill old block)=fill (old++text) block)
  (hclient:∀ old (block:AccumulatedBlock),kindOf block.kind=kind →
   (clientBlock renv messageId b ⟨block.index,fill old block.kind⟩).2.push delta =
    (clientBlock renv messageId b ⟨block.index,fill (old++text) block.kind⟩).2) :
  Folded renv messageId model (events++[event]) c:=by
 obtain ⟨hopen,rfl⟩:=Blocks.of_read_delta hbracket
 obtain ⟨hlt,hkind⟩:=h.kinds index kind hopen
 have hstarts:startsOf (events++[event])=startsOf events:=by
  rw [startsOf_append]
  unfold startsOf
  rw [List.filterMap_cons,hstarted,List.filterMap_nil,List.append_nil]
 have hspoken:∀ other,spokenOf other (events++[event]) =
   if index=other then spokenOf other events++text else spokenOf other events:=by
  intro other
  have hone:spokenOf other [event]=if index=other then text else "" := by
   unfold spokenOf
   rw [List.filterMap_cons,hdelta]
   split_ifs
   · exact String.join_cons.trans String.append_empty
   · rfl
  rw [spokenOf_append,hone]
  split_ifs
  · rfl
  · exact String.append_empty
 have hfilled:∀ block∈startsOf events,filled (events++[event]) block =
   if block.index=index then ⟨block.index,push (filled events block).kind⟩
    else filled events block:=by
  intro block hmem
  unfold filled
  rw [hspoken]
  by_cases hindex:block.index=index
  · rw [if_pos hindex,if_pos hindex.symm,hpush _ _ (hkind block hmem hindex)]
  · rw [if_neg hindex,if_neg (Ne.symm hindex)]
 have hblocks:updateLast index push ((startsOf events).map (filled events)) =
   (startsOf events).map (filled (events++[event])):=by
  have hindexes:((startsOf events).map (filled events)).map AccumulatedBlock.index = List.range c.next:=by
   rw [List.map_map,← h.numbered]
   rfl
  rw [updateLast_eq _ _ _ (hindexes ▸ List.nodup_range),List.map_map]
  exact List.map_congr_left fun block hmem=>(hfilled block hmem).symm
 refine ⟨hstarts ▸ h.numbered,?_,?_,?_,?_⟩
 · intro other hle
   rw [hspoken,if_neg (by omega),h.quiet other hle]
 · intro other otherKind hother
   rw [hstarts]
   exact h.kinds other otherKind hother
 · rw [List.foldl_append,h.message,hstarts,← hblocks]
   exact hread _
 · rw [List.flatMap_append,List.foldl_append,h.client,List.flatMap_singleton,hparts,hstarts]
   refine congrArg (ClientMessage.mk messageId model · none .default) ?_
   rw [List.map_map,List.map_map,List.map_map]
   refine List.map_congr_left fun block hmem=>?_
   change (if block.index=index then _ else _) =
    clientBlock renv messageId c (filled (events++[event]) block)
   unfold filled
   rw [hspoken]
   by_cases hindex:block.index=index
   · rw [if_pos hindex,if_pos hindex.symm]
     exact Prod.ext rfl (hclient _ block (hkind block hmem hindex))
   · rw [if_neg hindex,if_neg (Ne.symm hindex)]

theorem Folded.stop (h:Folded renv messageId model events b) {event:ReducerEvent}
  {index:ℕ} {kind:BlockKind} (hbracket:b.read (.stop index kind)=some c)
  (hstarted:startedOf event=none) (hdelta:∀ other,deltaOf other event=none)
  (hread:∀ s:AccumulateState,s.read event=s)
  (hclient:∀ blocks:List AccumulatedBlock,
   (partsOf renv messageId event).foldl ClientMessage.read
    ⟨messageId,model,blocks.map (clientBlock renv messageId b),none,.default⟩ =
     ⟨messageId,model,blocks.map (clientBlock renv messageId c),none,.default⟩) :
  Folded renv messageId model (events++[event]) c:=by
 obtain ⟨hopen,hc⟩:=Blocks.of_read_stop hbracket
 have hstarts:startsOf (events++[event])=startsOf events:=by
  rw [startsOf_append]
  unfold startsOf
  rw [List.filterMap_cons,hstarted,List.filterMap_nil,List.append_nil]
 have hspoken:∀ other,spokenOf other (events++[event])=spokenOf other events:=by
  intro other
  unfold spokenOf
  rw [List.filterMap_append,List.filterMap_cons,hdelta,List.filterMap_nil,List.append_nil]
 have hfilled:filled (events++[event])=filled events:=by
  funext block
  unfold filled
  rw [hspoken]
 refine ⟨?_,?_,?_,?_,?_⟩
 · rw [hstarts,h.numbered,hc]
 · intro other hle
   rw [hspoken]
   rw [hc] at hle
   exact h.quiet other hle
 · intro other otherKind hother
   rw [hc] at hother ⊢
   have hother:Function.update b.opened index none other=some otherKind:=hother
   by_cases hsame:other=index
   · subst hsame
     rw [Function.update_self] at hother
     exact (nomatch hother)
   · rw [Function.update_of_ne hsame] at hother
     rw [hstarts]
     exact h.kinds other otherKind hother
 · rw [List.foldl_append,h.message,hstarts,hfilled]
   exact hread _
 · rw [List.flatMap_append,List.foldl_append,h.client,List.flatMap_singleton,hclient,hstarts,hfilled]

end reading

theorem folded_nothing (renv:RenderEnv) (messageId model:String) : Folded renv messageId model [] .none :=
 ⟨rfl,fun _ _=>rfl,fun _ _ hopen=>(nomatch hopen),rfl,rfl⟩

variable {events:List ReducerEvent}

theorem Folded.event {model:String} {b c:Blocks BlockKind}
  (h:Folded renv messageId model events b) {event:ReducerEvent} {bracket:Bracket BlockKind}
  (hevent:bracketOf event=some bracket) (hread:b.read bracket=some c)
  : Folded renv messageId model (events++[event]) c:=by
 have hopened:∀ index kind,b.read (.start index kind)=some c → c.opened index=some kind:=by
  intro index kind hstart
  rw [(Blocks.of_read_start hstart).2]
  exact Function.update_self _ _ _
 have hstop:∀ index kind,kind ≠ .thinking → b.read (.stop index kind)=some c →
   ∀ block:AccumulatedBlock,clientBlock renv messageId b block=clientBlock renv messageId c block:=by
  intro index kind hkind hclosed block
  obtain ⟨hopen,hc⟩:=Blocks.of_read_stop hclosed
  refine clientBlock_congr ?_
  rw [hc]
  change _ ↔ Function.update b.opened index none block.index=_
  by_cases hsame:block.index=index
  · rw [hsame,Function.update_self,hopen]
    exact iff_of_false (fun heq=>hkind (Option.some.inj heq)) nofun
  · rw [Function.update_of_ne hsame]
 cases event with
 | thinkingStart index=>
  obtain rfl:=Option.some.inj hevent
  refine h.start ⟨index,.thinking ""⟩ rfl hread (fun _=>rfl) rfl (fun _=>rfl)
   fun s=>?_
  unfold clientBlock
  dsimp only
  rw [if_pos (hopened index .thinking hread)]
  rfl
 | textStart index=>
  obtain rfl:=Option.some.inj hevent
  exact h.start ⟨index,.text ""⟩ rfl hread (fun _=>rfl) rfl (fun _=>rfl)
   fun _=>rfl
 | toolStart index id name=>
  obtain rfl:=Option.some.inj hevent
  exact h.start ⟨index,.tool id name ""⟩ rfl hread (fun _=>rfl) rfl
   (fun _=>rfl) fun _=>rfl
 | thinkingDelta index text=>
  obtain rfl:=Option.some.inj hevent
  refine h.delta hread rfl (fun _=>rfl) (fun _=>rfl) rfl ?_ ?_
  · intro old block hkind
    cases block with
    | thinking text=>rfl
    | text text=>exact (nomatch hkind)
    | tool id name args=>exact (nomatch hkind)
  · intro old block hkind
    obtain ⟨number,kind⟩:=block
    cases kind with
    | thinking text=>rfl
    | text text=>exact (nomatch hkind)
    | tool id name args=>exact (nomatch hkind)
 | textDelta index text=>
  obtain rfl:=Option.some.inj hevent
  refine h.delta hread rfl (fun _=>rfl) (fun _=>rfl) rfl ?_ ?_
  · intro old block hkind
    cases block with
    | thinking text=>exact (nomatch hkind)
    | text text=>rfl
    | tool id name args=>exact (nomatch hkind)
  · intro old block hkind
    obtain ⟨number,kind⟩:=block
    cases kind with
    | thinking text=>exact (nomatch hkind)
    | text text=>rfl
    | tool id name args=>exact (nomatch hkind)
 | toolDelta index partialJson=>
  obtain rfl:=Option.some.inj hevent
  refine h.delta hread rfl (fun _=>rfl) (fun _=>rfl) rfl ?_ ?_
  · intro old block hkind
    cases block with
    | thinking text=>exact (nomatch hkind)
    | text text=>exact (nomatch hkind)
    | tool id name args=>rfl
  · intro old block hkind
    obtain ⟨number,kind⟩:=block
    cases kind with
    | thinking text=>exact (nomatch hkind)
    | text text=>exact (nomatch hkind)
    | tool id name args=>rfl
 | thinkingStop index=>
  obtain rfl:=Option.some.inj hevent
  refine h.stop hread rfl (fun _=>rfl) (fun _=>rfl) fun blocks=>?_
  obtain ⟨hopen,hc⟩:=Blocks.of_read_stop hread
  refine congrArg (ClientMessage.mk messageId model · none .default) ?_
  rw [List.map_map]
  refine List.map_congr_left fun block _=>?_
  change (if block.index=index then _ else _)=_
  by_cases hsame:block.index=index
  · rw [if_pos hsame]
    obtain ⟨number,kind⟩:=block
    obtain rfl : number=index:=hsame
    have hclosed:c.opened number≠some .thinking:=by
     rw [hc]
     change Function.update b.opened number none number≠_
     rw [Function.update_self]
     exact nofun
    unfold clientBlock
    dsimp only
    rw [if_pos hopen,if_neg hclosed]
    cases kind with
    | thinking text=>exact Prod.ext rfl (congrArg (ClientBlock.thinking text)
      String.empty_append)
    | text text=>rfl
    | tool id name args=>rfl
  · rw [if_neg hsame]
    refine clientBlock_congr ?_
    rw [hc]
    change _ ↔ Function.update b.opened index none block.index=_
    rw [Function.update_of_ne hsame]
 | textStop index=>
  obtain rfl:=Option.some.inj hevent
  refine h.stop hread rfl (fun _=>rfl) (fun _=>rfl) fun blocks=>?_
  exact congrArg (ClientMessage.mk messageId model · none .default)
   (List.map_congr_left fun block _=>hstop index .text nofun hread block)
 | toolStop index=>
  obtain rfl:=Option.some.inj hevent
  refine h.stop hread rfl (fun _=>rfl) (fun _=>rfl) fun blocks=>?_
  exact congrArg (ClientMessage.mk messageId model · none .default)
   (List.map_congr_left fun block _=>hstop index .tool nofun hread block)
 | finish stopReason usage=>exact (nomatch hevent)

theorem folded_run (more:List ReducerEvent)
  (hmore:∀ event∈more,(bracketOf event).isSome=true) {model:String} : ∀ {events:List ReducerEvent}
  {b c:Blocks BlockKind},Folded renv messageId model events b →
   b.readAll (bracketsOf more)=some c → Folded renv messageId model (events++more) c:=by
 induction more with
 | nil=>
  intro events b c h hread
  obtain rfl:=Option.some.inj hread
  rw [List.append_nil]
  exact h
 | cons event more ih=>
  intro events b c h hread
  obtain ⟨bracket,hbracket⟩:=Option.isSome_iff_exists.mp (hmore event List.mem_cons_self)
  have hcons:bracketsOf (event::more)=bracket::bracketsOf more:=by
   unfold bracketsOf
   rw [List.filterMap_cons,hbracket]
  rw [hcons] at hread
  unfold Blocks.readAll at hread
  rw [List.foldlM_cons] at hread
  obtain ⟨d,hone,hrest⟩:=Option.bind_eq_some_iff.mp hread
  have hall:=ih (fun other hmem=>hmore other (List.mem_cons_of_mem _ hmem))
   (h.event hbracket hone) hrest
  rw [List.append_assoc] at hall
  exact hall

def Spoken (events:List ReducerEvent) : Prop :=
 ∀ index, .thinkingStart index∈events ∨ .textStart index∈events →
  ∃ event∈events,∃ text,deltaOf index event=some text ∧ text ≠ ""

def Loud : Step → Prop
 | .reasoning text=>text ≠ ""
 | .content text=>text ≠ ""
 | _=>True

theorem Spoken.append {more:List ReducerEvent} (h:Spoken events) (h':Spoken more) : Spoken (events++more):=by
 intro index hstart
 have hsplit:(.thinkingStart index∈events ∨ .textStart index∈events) ∨
   (.thinkingStart index∈more ∨ .textStart index∈more):=by
  rcases hstart with hstart | hstart
  · exact (List.mem_append.mp hstart).imp Or.inl Or.inl
  · exact (List.mem_append.mp hstart).imp Or.inr Or.inr
 rcases hsplit with hstart | hstart
 · obtain ⟨event,hmem,hsaid⟩:=h index hstart
   exact ⟨event,List.mem_append_left _ hmem,hsaid⟩
 · obtain ⟨event,hmem,hsaid⟩:=h' index hstart
   exact ⟨event,List.mem_append_right _ hmem,hsaid⟩

theorem spoken_quiet (h:∀ event∈events,∀ index,event ≠ .thinkingStart index ∧ event ≠ .textStart index)
  : Spoken events:=by
 rintro index (hstart | hstart)
 · exact absurd rfl (h _ hstart index).1
 · exact absurd rfl (h _ hstart index).2

theorem spoken_closeThinking (s:ReducerState) (h:Spoken s.out) : Spoken s.closeThinking.out:=by
 unfold ReducerState.closeThinking
 cases s.thinkingIndex with
 | none=>exact h
 | some index=>exact h.append (spoken_quiet (by simp))

theorem spoken_closeText (s:ReducerState) (h:Spoken s.out) : Spoken s.closeText.out:=by
 unfold ReducerState.closeText
 cases s.textIndex with
 | none=>exact h
 | some index=>exact h.append (spoken_quiet (by simp))

theorem spoken_readReasoning (s:ReducerState) {text:String} (htext:text ≠ "")
  (h:Spoken s.out) : Spoken (s.readReasoning text).out:=by
 unfold ReducerState.readReasoning
 cases s.thinkingIndex with
 | some index=>exact h.append (spoken_quiet (by simp))
 | none=>
  refine h.append fun index hstart=>⟨.thinkingDelta s.nextBlockIndex text,by simp,text,?_,htext⟩
  have hindex:index=s.nextBlockIndex:=by simpa using hstart
  exact if_pos hindex.symm

theorem spoken_readContent (s:ReducerState) {text:String} (htext:text ≠ "")
  (h:Spoken s.out) : Spoken (s.readContent text).out:=by
 have hclosed:=spoken_closeThinking s h
 unfold ReducerState.readContent
 dsimp only
 generalize s.closeThinking=c at hclosed ⊢
 cases c.textIndex with
 | some index=>exact hclosed.append (spoken_quiet (by simp))
 | none=>
  refine hclosed.append fun index hstart=>
   ⟨.textDelta c.nextBlockIndex text,by simp,text,?_,htext⟩
  have hindex:index=c.nextBlockIndex:=by simpa using hstart
  exact if_pos hindex.symm

theorem spoken_pushArguments (s:ReducerState) (index:ℕ) (tc:StreamToolCall)
  (h:Spoken s.out) : Spoken (s.pushArguments index tc).out:=by
 unfold ReducerState.pushArguments
 split_ifs
 · exact h
 · exact h.append (spoken_quiet (by simp))

theorem spoken_readToolCall (s:ReducerState) (tc:StreamToolCall) (h:Spoken s.out) : Spoken (s.readToolCall tc).out:=by
 unfold ReducerState.readToolCall
 cases s.toolSlots.find? fun slot=>slot.blockIndex=tc.index with
 | some slot=>exact spoken_pushArguments s _ tc h
 | none=>
  dsimp only
  split_ifs
  · exact h
  · exact spoken_pushArguments _ _ tc (h.append (spoken_quiet (by simp)))

theorem spoken_readStep (s:ReducerState) {step:Step} (hloud:Loud step)
  (h:Spoken s.out) : Spoken (readStep s step).out:=by
 cases step with
 | reasoning text=>exact spoken_readReasoning s hloud h
 | content text=>exact spoken_readContent s hloud h
 | tools=>exact spoken_closeText _ (spoken_closeThinking s h)
 | call tc=>exact spoken_readToolCall s tc h

theorem spoken_steps (steps:List Step) (hloud:∀ step∈steps,Loud step) :
  ∀ s:ReducerState,Spoken s.out → Spoken (steps.foldl readStep s).out:=by
 induction steps with
 | nil=>exact fun s h=>h
 | cons step steps ih=>
  intro s h
  exact ih (fun other hmem=>hloud other (List.mem_cons_of_mem _ hmem)) _
   (spoken_readStep s (hloud step List.mem_cons_self) h)

theorem loud_textSteps {step:String → Step} (hstep:∀ text,text ≠ "" → Loud (step text))
  (text:Option String) : ∀ other∈textSteps step text,Loud other:=by
 unfold textSteps
 cases text with
 | none=>exact nofun
 | some text=>
  dsimp only
  split_ifs with hempty
  · exact nofun
  · intro other hmem
    obtain rfl:=List.mem_singleton.mp hmem
    exact hstep text fun heq=>hempty (String.isEmpty_iff.mpr heq)

theorem loud_stepsOfDelta (delta:StreamDelta) : ∀ step∈stepsOfDelta delta,Loud step:=by
 intro step hmem
 unfold stepsOfDelta at hmem
 rcases List.mem_append.mp hmem with hmem | hmem
 · rcases List.mem_append.mp hmem with hmem | hmem
   · exact @loud_textSteps .reasoning (fun _ h=>h) _ step hmem
   · exact @loud_textSteps .content (fun _ h=>h) _ step hmem
 · cases hcalls:delta.toolCalls with
   | none=>
    rw [hcalls] at hmem
    exact (nomatch hmem)
   | some toolCalls=>
    rw [hcalls] at hmem
    dsimp only at hmem
    split_ifs at hmem
    · exact (nomatch hmem)
    · rcases List.mem_cons.mp hmem with rfl | hmem
      · trivial
      · obtain ⟨tc,-,rfl⟩:=List.mem_map.mp hmem
        trivial

theorem loud_stepsOfChunk (chunk:StreamChunk) : ∀ step∈stepsOfChunk chunk,Loud step:=by
 unfold stepsOfChunk
 split_ifs
 · exact nofun
 · cases (chunk.choices.getD []).head? with
   | none=>exact nofun
   | some choice=>
    dsimp only
    cases choice.delta with
    | none=>exact nofun
    | some delta=>exact loud_stepsOfDelta delta

theorem spoken_run (chunks:List StreamChunk) : ∀ s:ReducerState,Spoken s.out →
  Spoken (chunks.foldl ReducerState.readChunk s).out:=by
 induction chunks with
 | nil=>exact fun s h=>h
 | cons chunk chunks ih=>
  intro s h
  obtain ⟨reason,usage,hchunk⟩:=readChunk_steps s chunk
  refine ih _ ?_
  rw [hchunk]
  exact spoken_steps _ (loud_stepsOfChunk chunk) s h

theorem Spoken.text_ne (h:Spoken events) {index:ℕ} (hstart:.thinkingStart index∈events ∨ .textStart index∈events) :
  spokenOf index events ≠ "" := by
 obtain ⟨event,hmem,text,hdelta,htext⟩:=h index hstart
 obtain ⟨before,after,rfl⟩:=List.append_of_mem hmem
 have hevent:spokenOf index (event::after)=text++spokenOf index after:=by
  unfold spokenOf
  rw [List.filterMap_cons,hdelta]
  exact String.join_cons
 rw [spokenOf_append,hevent]
 intro hempty
 have hparts:=String.append_eq_empty_iff.mp hempty
 exact htext (String.append_eq_empty_iff.mp hparts.2).1

def ObjectKept (renv:RenderEnv) (block:ℕ×ClientBlock) (content:MessageBlock) : Prop :=
 ∀ id name partialJson,block.2=.toolUse id name partialJson →
  (partialJson = "" ∨ ∃ members,renv.readValue partialJson=some (.object members)) →
   ∃ members,content=.toolUse id name (.object members)

structure Agree (renv:RenderEnv) (malformed:String → JsonValue)
  (translated:Except String (List StreamEvent)) (accumulated:Except String Message) :
  Prop where
 fails : (∃ error,translated=.error error) ↔ ∃ error,accumulated=.error error
 same : ∀ stream message,translated=.ok stream → accumulated=.ok message → clientMessage renv malformed stream=message
 objects : ∀ stream message,translated=.ok stream → accumulated=.ok message →
  List.Forall₂ (ObjectKept renv) (stream.foldl ClientMessage.read .nothing).blocks message.content

/-- Every tool has arguments, and the client keeps those that are not JSON as their text. -/
def ArgumentsSent (renv:RenderEnv) (malformed:String → JsonValue) (events:List ReducerEvent) : Prop :=
 ∀ index id name, .toolStart index id name∈events → spokenOf index events ≠ "" ∧
  (renv.readValue (spokenOf index events)=none → malformed (spokenOf index events)=.string (spokenOf index events))

/-- The block of the message, if it is not empty. -/
def fullContent (renv:RenderEnv) (messageId:String) (block:AccumulatedBlock) : MessageBlock :=
 match block.kind with
 | .thinking text=>.thinking text (renv.makeThinkingSignature messageId block.index)
 | .text text=>.text text
 | .tool id name args=>.toolUse id name ((renv.readValue args).getD (.string args))

theorem contentOf_filled {body:List ReducerEvent} (hspoken:Spoken body)
  {block:AccumulatedBlock} (hmem:block∈startsOf body) :
  contentOf renv messageId (filled body block) = some (fullContent renv messageId (filled body block)):=by
 obtain ⟨event,hevent,hstarted⟩:=List.mem_filterMap.mp hmem
 have hloud:∀ index, .thinkingStart index∈body ∨ .textStart index∈body →
   (spokenOf index body).isEmpty=false := fun index hstart=>
  Bool.eq_false_iff.mpr fun hempty=>
   hspoken.text_ne hstart (String.isEmpty_iff.mp hempty)
 cases event with
 | thinkingStart index=>
  obtain rfl:=Option.some.inj hstarted
  exact if_neg (Bool.eq_false_iff.mp (hloud index (Or.inl hevent)))
 | textStart index=>
  obtain rfl:=Option.some.inj hstarted
  exact if_neg (Bool.eq_false_iff.mp (hloud index (Or.inr hevent)))
 | toolStart index id name=>
  obtain rfl:=Option.some.inj hstarted
  rfl
 | _=>exact (nomatch hstarted)

theorem inputs_agree_iff (hempty:renv.readValue "" = none) (malformed:String → JsonValue) (args:String) :
  clientInput renv malformed args=(renv.readValue args).getD (.string args) ↔
   args ≠ "" ∧ (renv.readValue args=none → malformed args=.string args):=by
 unfold clientInput
 by_cases hargs:args = ""
 · subst hargs
   rw [if_pos (by decide),hempty]
   exact iff_of_false nofun fun hboth=>hboth.1 rfl
 · rw [if_neg fun h=>hargs (String.isEmpty_iff.mp h)]
   cases renv.readValue args with
   | none=>exact ⟨fun h=>⟨hargs,fun _=>h⟩,fun h=>h.2 rfl⟩
   | some value=>exact iff_of_true rfl ⟨hargs,nofun⟩

theorem contents_agree_iff {renv:RenderEnv} (hempty:renv.readValue "" = none)
  (malformed:String → JsonValue) (messageId:String) {body:List ReducerEvent}
  {b:Blocks BlockKind} (hb:∀ index,b.opened index=none) :
  (((startsOf body).map (filled body)).map (clientBlock renv messageId b)).map
    (fun block=>clientContent renv malformed block.2) =
   ((startsOf body).map (filled body)).map (fullContent renv messageId) ↔
    ArgumentsSent renv malformed body:=by
 rw [List.map_map,List.map_map,List.map_map,List.map_inj_left]
 constructor
 · intro h index id name hmem
   have hstart:(⟨index,.tool id name ""⟩ : AccumulatedBlock)∈startsOf body :=
    List.mem_filterMap.mpr ⟨_,hmem,rfl⟩
   have hinput:=(MessageBlock.toolUse.inj (h _ hstart)).2.2
   exact (inputs_agree_iff hempty malformed _).mp hinput
 · intro h block hmem
   obtain ⟨event,hevent,hstarted⟩:=List.mem_filterMap.mp hmem
   cases event with
   | thinkingStart index=>
    obtain rfl:=Option.some.inj hstarted
    change MessageBlock.thinking _ (if b.opened index=some .thinking then _ else _)=_
    rw [hb index,if_neg (nofun:(none:Option BlockKind)≠some .thinking)]
    rfl
   | textStart index=>
    obtain rfl:=Option.some.inj hstarted
    rfl
   | toolStart index id name=>
    obtain rfl:=Option.some.inj hstarted
    exact congrArg (MessageBlock.toolUse id name) ((inputs_agree_iff hempty malformed _).mpr (h index id name hevent))
   | _=>exact (nomatch hstarted)

theorem finished (env:KimiEnv) (renv:RenderEnv) (input:List UInt8) (messageId model:String)
  (h:reduceUpstreamBytes env input=.ok events) : ∃ body stopReason usage b,
   events=body++[.finish stopReason usage] ∧ Balanced (bracketsOf body) ∧
    Spoken body ∧ (∀ index,b.opened index=none) ∧ Folded renv messageId model body b:=by
 have hevents:=reduceChunks_ok _ _ h
 have hbracketed:=bracketed_run (chunksOf env input) bracketed_new
 have hspoken:=spoken_run (chunksOf env input) .new (spoken_quiet nofun)
 generalize (chunksOf env input).foldl ReducerState.readChunk .new=s at hevents hbracketed hspoken
 obtain ⟨hbalanced,hbody⟩:=hbracketed.body
 rw [finishStream_eq] at hevents
 have hstops:Spoken (s.closeThinking.closeText.toolSlots.map fun slot=>
   .toolStop slot.blockIndex):=by
  refine spoken_quiet fun event hmem index=>?_
  obtain ⟨slot,-,rfl⟩:=List.mem_map.mp hmem
  exact ⟨nofun,nofun⟩
 obtain ⟨count,hread⟩:=hbalanced
 exact ⟨bodyOf s,_,_,⟨count,fun _=>none⟩,hevents,⟨count,hread⟩,
  (spoken_closeText _ (spoken_closeThinking s hspoken)).append hstops,fun _=>rfl,
  folded_run (bodyOf s) hbody (folded_nothing renv messageId model) hread⟩

section finished
variable {renv:RenderEnv} {messageId model:String} {body:List ReducerEvent}
variable {b:Blocks BlockKind}

theorem clientMessage_finished (hbalanced:Balanced (bracketsOf body))
  (hfolded:Folded renv messageId model body b) (stopReason:StopReason) (usage:Option KimiUsage) :
  (renderAll renv messageId model (body++[.finish stopReason usage])).foldl
   ClientMessage.read .nothing=⟨messageId,model,
    ((startsOf body).map (filled body)).map (clientBlock renv messageId b),
     some (stopReasonText stopReason),mapUsageToAnthropic usage⟩:=by
 rw [renderAll_eq renv messageId model hbalanced,List.foldl_cons,List.flatMap_append,List.foldl_append]
 change List.foldl ClientMessage.read ((body.flatMap (partsOf renv messageId)).foldl
  ClientMessage.read ⟨messageId,model,[],none,.default⟩) _=_
 rw [hfolded.client]
 rfl

theorem accumulate_finished (hspoken:Spoken body)
  (hfolded:Folded renv messageId model body b) (stopReason:StopReason) (usage:Option KimiUsage) :
  accumulate renv messageId model (body++[.finish stopReason usage]) =
   ⟨messageId,model,((startsOf body).map (filled body)).map (fullContent renv messageId),
    some (stopReasonText stopReason),mapUsageToAnthropic usage⟩:=by
 unfold accumulate
 rw [List.foldl_append,hfolded.message]
 refine congrArg (Message.mk messageId model · _ _) ?_
 change ((startsOf body).map (filled body)).filterMap (contentOf renv messageId)=_
 rw [List.filterMap_map,List.map_map,← List.filterMap_eq_map]
 exact List.filterMap_congr fun block hmem=>contentOf_filled hspoken hmem

end finished

theorem ObjectKept.of_client {malformed:String → JsonValue} (block:ℕ×ClientBlock) :
  ObjectKept renv block (clientContent renv malformed block.2):=by
 intro id name partialJson hblock hobject
 rw [hblock]
 change ∃ members,MessageBlock.toolUse id name (clientInput renv malformed partialJson)=_
 unfold clientInput
 by_cases hempty:partialJson = ""
 · subst hempty
   exact ⟨[],rfl⟩
 · obtain ⟨members,hread⟩:=hobject.resolve_left hempty
   rw [if_neg fun h=>hempty (String.isEmpty_iff.mp h),hread]
   exact ⟨members,rfl⟩

/-- The stream and the message agree exactly if every tool has arguments. -/
theorem streamed_agrees_iff (env:KimiEnv) (renv:RenderEnv) (malformed:String → JsonValue)
    (input:List UInt8) (messageId model:String) (hempty:renv.readValue "" = none) :
    Agree renv malformed (translateStreamBytes env renv input messageId model)
        (accumulateResponse env renv input messageId model) ↔
      ∀ events,reduceUpstreamBytes env input=.ok events → ArgumentsSent renv malformed events:=by
  unfold translateStreamBytes accumulateResponse
  cases hred:reduceUpstreamBytes env input with
  | error message=>
    refine iff_of_true ⟨?_,nofun,nofun⟩ nofun
    exact iff_of_true ⟨_,rfl⟩ ⟨_,rfl⟩
  | ok events=>
    obtain ⟨body,stopReason,usage,b,rfl,hbalanced,hspoken,hb,hfolded⟩ :=
      finished env renv input messageId model hred
    dsimp only
    have hclient:=clientMessage_finished hbalanced hfolded stopReason usage
    have hmessage:=accumulate_finished hspoken hfolded stopReason usage
    have hspokenSame:∀ index,spokenOf index (body++[.finish stopReason usage]) = spokenOf index body:=by
      intro index
      rw [spokenOf_append]
      exact String.append_empty
    have hsent:ArgumentsSent renv malformed (body++[.finish stopReason usage]) ↔ ArgumentsSent renv malformed body:=by
      unfold ArgumentsSent
      refine forall_congr' fun index=>forall_congr' fun id=>forall_congr' fun name=>?_
      rw [hspokenSame,List.mem_append,or_iff_left (by simp)]
    have hcontents:=@contents_agree_iff renv hempty malformed messageId body b hb
    constructor
    · intro h more hmore
      obtain rfl:=Except.ok.inj hmore
      have hsame:=h.same _ _ rfl rfl
      unfold clientMessage at hsame
      rw [hclient,hmessage] at hsame
      exact hsent.mpr (hcontents.mp (Message.mk.inj hsame).2.2.1)
    · intro h
      have hcontent:=hcontents.mpr (hsent.mp (h _ rfl))
      refine ⟨iff_of_false nofun nofun,?_,?_⟩
      · intro stream message hstream haccumulated
        obtain rfl:=Except.ok.inj hstream
        obtain rfl:=Except.ok.inj haccumulated
        unfold clientMessage
        rw [hclient,hmessage]
        exact congrArg (Message.mk messageId model · _ _) hcontent
      · intro stream message hstream haccumulated
        obtain rfl:=Except.ok.inj hstream
        obtain rfl:=Except.ok.inj haccumulated
        rw [hclient,hmessage]
        dsimp only
        rw [← hcontent]
        exact List.forall₂_map_right_iff.mpr (List.forall₂_same.mpr fun block _=>ObjectKept.of_client block)

def plainRender : RenderEnv where
 makeThinkingSignature messageId index := messageId++toString index
 readValue text := if text = "{}" then some (.object []) else none

def keepText (text:String) : JsonValue := .string text

theorem streamed_agrees_iff_plain : Agree plainRender keepText
    (translateStreamBytes KimiReassembly.sampleEnv plainRender
      (KimiReassembly.sampleInput KimiReassembly.plainText) "m" "kimi")
    (accumulateResponse KimiReassembly.sampleEnv plainRender
      (KimiReassembly.sampleInput KimiReassembly.plainText) "m" "kimi"):=by
  refine (streamed_agrees_iff _ plainRender keepText _ "m" "kimi" (by decide)).mpr ?_
  intro events hread
  unfold reduceUpstreamBytes at hread
  rw [KimiReassembly.chunksOf_plain] at hread
  obtain rfl : [.toolStart 0 "a" "f",.toolDelta 0 "{}",.toolStop 0,.finish .toolUse none] =
    events := Except.ok.inj hread
  intro index id name hmem
  obtain ⟨rfl,rfl,rfl⟩ : index=0 ∧ id = "a" ∧ name = "f" := by simpa using hmem
  exact ⟨by decide,fun _=>rfl⟩

def quietText : XmlElements.Text :=
 "\x7b\"choices\":[\x7b\"delta\":\x7b\"tool_calls\":[\x7b\"index\":0,\"id\":\"a\",\"function\":\x7b\"name\":\"f\"\x7d\x7d]\x7d\x7d]\x7d".toList

def quietChunk : StreamChunk :=
 ⟨some [⟨some ⟨none,none,some [⟨0,some "a",some ⟨some "f",none⟩⟩]⟩,none⟩],none,none⟩

def quietEnv : KimiEnv where
 fromUtf8Lossy input := input.map fun byte=>Char.ofNat byte.toNat
 fromStr data := if data=quietText then some quietChunk else none

set_option maxRecDepth 8000 in
theorem chunksOf_quiet : chunksOf quietEnv (KimiReassembly.sampleInput quietText)=[quietChunk]:=by
 have hchars:quietText=_:=String.toList_ofList
 have hevents:(SseEvents.parseSseText
   (quietEnv.fromUtf8Lossy (KimiReassembly.sampleInput quietText))).map
    (fun event=>XmlElements.trim event.data)=[quietText]:=by
  rw [hchars]
  decide +kernel
 have hdata:(quietText.isEmpty||quietText = "[DONE]".toList)=false:=by
  rw [hchars]
  decide +kernel
 have hchunk:quietEnv.fromStr quietText=some quietChunk:=by
  change (if quietText=quietText then some quietChunk else none)=_
  exact if_pos rfl
 exact KimiReassembly.chunksOf_single hevents hdata hchunk

/-- A call without arguments has the input `{}` in the stream and an empty string in the
message. -/
theorem empty_arguments_differ :
    ¬ ∀ (env:KimiEnv) (renv:RenderEnv) (malformed:String → JsonValue) (input:List UInt8)
      (messageId model:String),renv.readValue "" = none →
        Agree renv malformed (translateStreamBytes env renv input messageId model)
          (accumulateResponse env renv input messageId model):=by
  intro h
  have hagree:=h quietEnv plainRender keepText (KimiReassembly.sampleInput quietText) "m" "kimi" (by decide)
  have hred:reduceUpstreamBytes quietEnv (KimiReassembly.sampleInput quietText) =
      .ok [.toolStart 0 "a" "f",.toolStop 0,.finish .toolUse none]:=by
    unfold reduceUpstreamBytes
    rw [chunksOf_quiet]
    rfl
  unfold translateStreamBytes accumulateResponse at hagree
  rw [hred] at hagree
  have hcontent:=congrArg Message.content (hagree.same _ _ rfl rfl)
  have hinput:JsonValue.object []=.string "" :=
    (MessageBlock.toolUse.inj (List.cons.inj hcontent).1).2.2
  exact (nomatch hinput)

end CursorProxy.KimiAgreement
