import CursorProxy.ResponsesChunking

namespace CursorProxy.ResponsesLife
open JsonValues XmlElements SseEvents ResponsesStream Translator

def isTerminal : Payload → Bool
 | .completed _=>true
 | .incomplete _=>true
 | .failed _ _ _=>true
 | _=>false

def isBody : Payload → Bool
 | .created _=>false
 | .done=>false
 | payload=>!isTerminal payload

/-- A method that neither begins nor ends the stream. -/
structure Body (s:Translator) (emission:Emission) : Prop where
 sequence : emission.1.sequence=s.sequence
 started : emission.1.started=s.started
 finished : emission.1.finished=s.finished
 failed : emission.1.failed=s.failed
 payloads : ∀ payload∈emission.2,isBody payload=true

section body
variable (s:Translator)

theorem body_nil : Body s (s,[]) := ⟨rfl,rfl,rfl,rfl,nofun⟩

theorem updateItem_fields (id:String) (f:Item → Item) : ∃ items,s.updateItem id f={ s with outputItems := items }:=by
 unfold updateItem
 cases s.outputItems.findIdx? fun item=>item.id=id with
 | none=>exact ⟨s.outputItems,rfl⟩
 | some index=>exact ⟨_,rfl⟩

theorem body_updateItem (id:String) (f:Item → Item) {payloads:List Payload}
  (h:∀ payload∈payloads,isBody payload=true) : Body s (s.updateItem id f,payloads):=by
 obtain ⟨items,heq⟩:=updateItem_fields s id f
 rw [heq]
 exact ⟨rfl,rfl,rfl,rfl,h⟩

theorem Body.trans {s s':Translator} {emission:Emission} {before:List Payload}
  (h:Body s (s',before)) (h':Body s' emission) : Body s (emission.1,before++emission.2) :=
 ⟨h'.sequence.trans h.sequence,h'.started.trans h.started,h'.finished.trans h.finished,
  h'.failed.trans h.failed,fun payload hmem=>(List.mem_append.mp hmem).elim
   (h.payloads payload) (h'.payloads payload)⟩

theorem body_textDelta (text:Option String) : Body s (s.textDelta text):=by
 unfold textDelta
 cases text with
 | none=>exact body_nil s
 | some text=>
  dsimp only
  cases s.textItemId with
  | none=>exact ⟨rfl,rfl,rfl,rfl,by simp [isBody,isTerminal]⟩
  | some itemId=>exact ⟨rfl,rfl,rfl,rfl,by simp [isBody,isTerminal]⟩

theorem body_reasoningDelta (text:String) : Body s (s.reasoningDelta text):=by
 unfold reasoningDelta
 cases s.reasoningOutputIndex with
 | none=>exact ⟨rfl,rfl,rfl,rfl,by simp [isBody,isTerminal]⟩
 | some index=>exact ⟨rfl,rfl,rfl,rfl,by simp [isBody,isTerminal]⟩

theorem body_compactionTextDelta (text:String) : Body s (s.compactionTextDelta text):=by
 unfold compactionTextDelta
 split_ifs
 · exact body_nil s
 · split
   · exact body_nil s
   · rename_i itemId _
     have hpayloads:∀ payload∈[Payload.outputTextDelta itemId
       (s.compactionOutputIndex.getD 0) text],isBody payload=true:=by
      simp [isBody,isTerminal]
     have h:=body_updateItem { s with compactionText := s.compactionText++text } itemId
      (Item.withContent (s.compactionText++text)) hpayloads
     exact ⟨h.sequence,h.started,h.finished,h.failed,h.payloads⟩

theorem body_closeCompactionItem : Body s s.closeCompactionItem:=by
 unfold closeCompactionItem
 cases s.compactionItemId with
 | none=>exact body_nil s
 | some itemId=>
  dsimp only
  cases s.outputItems.find? fun item=>item.id=itemId with
  | none=>exact body_nil s
  | some item=>
   dsimp only
   split_ifs
   · exact body_nil s
   · exact body_updateItem s itemId _ (by simp [isBody,isTerminal])

theorem body_startCompaction (index:ℕ) (content:Option String) : Body s (s.startCompaction index content):=by
 unfold startCompaction
 cases content with
 | none=>exact ⟨rfl,rfl,rfl,rfl,by simp [isBody,isTerminal]⟩
 | some content=>
  have h:=body_compactionTextDelta { s with
   nextOutputIndex := s.nextOutputIndex+1
   outputItemIndexes :=
    ("msg_cmp_" ++ s.id ++ "_" ++ toString index,s.nextOutputIndex)::s.outputItemIndexes
   compactionItemId := some ("msg_cmp_" ++ s.id ++ "_" ++ toString index)
   compactionOutputIndex := some s.nextOutputIndex
   compactionActiveIndex := some index
   compactionText := ""
   outputItems := s.outputItems ++ [.message ("msg_cmp_" ++ s.id ++ "_" ++ toString index) false none] } content
  refine ⟨h.sequence,h.started,h.finished,h.failed,fun payload hmem=>?_⟩
  rcases List.mem_append.mp hmem with hmem | hmem
  · rcases List.mem_cons.mp hmem with rfl | hmem
    · rfl
    · rw [List.mem_singleton.mp hmem]
      rfl
  · exact h.payloads payload hmem

theorem body_startToolUse (env:ResponsesEnv) (index:Option ℕ) (block:JsonValue) :
  Body s (startToolUse env s index block):=by
 unfold startToolUse
 dsimp only
 split_ifs
 · exact ⟨rfl,rfl,rfl,rfl,by simp [isBody,isTerminal]⟩
 · refine ⟨?_,?_,?_,?_,by simp [isBody,isTerminal]⟩
   all_goals
    rw [(updateItem_fields _ _ _).choose_spec]

theorem body_inputJsonDelta (blockIndex:Option ℕ) (partialJson:String) :
  Body s (s.inputJsonDelta blockIndex partialJson):=by
 unfold inputJsonDelta
 dsimp only
 cases s.toolItemIds[(blockIndex.bind fun block=>s.toolBlockOrdinals.lookup block).getD
   (s.toolIndex-1)]? with
 | none=>exact ⟨rfl,rfl,rfl,rfl,by simp [isBody,isTerminal]⟩
 | some itemId=>exact body_updateItem s itemId _ (by simp [isBody,isTerminal])

theorem body_closeItem (item:Item) (index:ℕ) : Body s (s.closeItem item index):=by
 unfold closeItem
 split_ifs
 · exact body_nil s
 · exact body_closeCompactionItem s
 · exact ⟨rfl,rfl,rfl,rfl,by simp [isBody,isTerminal]⟩
 · exact ⟨rfl,rfl,rfl,rfl,by simp [isBody,isTerminal]⟩

theorem body_closeItems (items:List (Item×ℕ)) : ∀ s:Translator,Body s (s.closeItems items):=by
 induction items with
 | nil=>exact body_nil
 | cons entry items ih=>
  intro s
  exact (body_closeItem s entry.1 entry.2).trans (ih _)

theorem body_closeOpenItems : Body s s.closeOpenItems:=by
 have htext:Body s (s,s.closeText):=by
  refine ⟨rfl,rfl,rfl,rfl,?_⟩
  unfold closeText
  cases s.textItemId with
  | none=>exact nofun
  | some itemId=>simp [isBody,isTerminal]
 exact htext.trans (body_closeItems _ s)

theorem body_contentBlockDelta (value:JsonValue) : Body s (s.contentBlockDelta value):=by
 unfold contentBlockDelta
 dsimp only
 split
 · split
   · exact body_reasoningDelta s _
   · exact body_nil s
 · split
   · exact body_compactionTextDelta s _
   · exact body_nil s
 · exact body_textDelta s _
 · split
   · exact body_inputJsonDelta s _ _
   · exact body_nil s
 · exact body_nil s

theorem body_contentBlockStart (env:ResponsesEnv) (value:JsonValue) : Body s (contentBlockStart env s value):=by
 unfold contentBlockStart
 dsimp only
 split
 · exact body_startCompaction s _ _
 · exact body_startToolUse s env _ _
 · exact body_nil s

theorem body_messageDelta (value:JsonValue) : Body s (s.messageDelta value):=by
 unfold messageDelta
 dsimp only
 cases value.get "usage" with
 | none=>exact ⟨rfl,rfl,rfl,rfl,nofun⟩
 | some usage=>exact ⟨rfl,rfl,rfl,rfl,nofun⟩

theorem body_contentBlockStop (value:JsonValue) : Body s (s.contentBlockStop value):=by
 unfold contentBlockStop
 dsimp only
 split_ifs
 · have hset:Body s ({ s with compactionActiveIndex:=none },[]) :=
    ⟨rfl,rfl,rfl,rfl,nofun⟩
   exact hset.trans (body_closeCompactionItem _)
 · exact body_nil s

end body

def payloadOf : Output → Payload
 | .event _ payload=>payload
 | .done=>.done

def sequenceNumbers (outputs:List Output) : List ℕ :=
 outputs.filterMap fun output=>match output with
  | .event sequenceNumber _=>some sequenceNumber
  | .done=>none

theorem number_payloads (payloads:List Payload) : ∀ sequence,(number sequence payloads).2.map payloadOf=payloads:=by
 induction payloads with
 | nil=>exact fun _=>rfl
 | cons payload payloads ih=>
  intro sequence
  cases payload <;> exact congrArg (_ :: ·) (ih _)

theorem number_done (sequence:ℕ) (payloads:List Payload) :
  number sequence (.done::payloads) = ((number sequence payloads).1,.done::(number sequence payloads).2) :=
 rfl

theorem number_event {payload:Payload} (h:payload ≠ .done) (sequence:ℕ)
  (payloads:List Payload) : number sequence (payload::payloads) =
   ((number (sequence+1) payloads).1,.event sequence payload::(number (sequence+1) payloads).2):=by
 cases payload
 case done=>exact absurd rfl h
 all_goals rfl

theorem number_append (payloads more:List Payload) : ∀ sequence,
  number sequence (payloads++more)=((number (number sequence payloads).1 more).1,
   (number sequence payloads).2++(number (number sequence payloads).1 more).2):=by
 induction payloads with
 | nil=>exact fun _=>rfl
 | cons payload payloads ih=>
  intro sequence
  rw [List.cons_append]
  by_cases hdone:payload=.done
  · subst hdone
    rw [number_done,number_done,ih]
    rfl
  · rw [number_event hdone,number_event hdone,ih]
    rfl

theorem number_sequence (payloads:List Payload) : ∀ sequence,
  ∃ count,sequenceNumbers (number sequence payloads).2=List.range' sequence count:=by
 induction payloads with
 | nil=>exact fun _=>⟨0,rfl⟩
 | cons payload payloads ih=>
  intro sequence
  have hevent:∃ count,sequence::sequenceNumbers (number (sequence+1) payloads).2 = List.range' sequence count:=by
   obtain ⟨count,hcount⟩:=ih (sequence+1)
   exact ⟨count+1,by rw [hcount,List.range'_succ]⟩
  cases payload
  case done=>exact ih sequence
  all_goals exact hevent

inductive Kind where
 | start
 | ping
 | stop
 | error
 /-- A delta or a block that is passed on at once. -/
 | speaking
 | silent
deriving DecidableEq

def deltaKind (delta:JsonValue) : Kind :=
 let carries (key:String) : Kind :=
  if ((delta.get key).bind JsonValue.asStr).isSome then .speaking else .silent
 match (delta.get "type").bind JsonValue.asStr with
 | some "thinking_delta" => carries "thinking"
 | some "text_delta" => carries "text"
 | some "input_json_delta" => carries "partial_json"
 | _=>.silent

def blockKind (block:JsonValue) : Kind :=
 match (block.get "type").bind JsonValue.asStr with
 | some "compaction" => .speaking
 | some "tool_use" => .speaking
 | _=>.silent

def kindOf (value:JsonValue) : Kind :=
 match ((value.get "type").bind JsonValue.asStr).getD "" with
 | "message_start" => .start
 | "content_block_delta" => deltaKind ((value.get "delta").getD .null)
 | "content_block_start" => blockKind ((value.get "content_block").getD .null)
 | "message_stop" => .stop
 | "error" => .error
 | "ping" => .ping
 | _=>.silent

def eventKind (env:ResponsesEnv) (event:SseEvent) : Kind :=
 match env.fromStr event.data with
 | some value=>kindOf value
 | none=>.silent

inductive Ending where
 | finish
 | fail (message:String)

/-- No start comes again before the stream is over. -/
def StartsOnce : List Kind → Prop
 | []=>True
 | .start::_=>False
 | .stop::_=>True
 | .error::_=>True
 | _::kinds=>StartsOnce kinds

/-- The first event that is passed on is a start, a ping or an error, and no start follows. -/
def Alive (ending:Ending) : List Kind → Prop
 | []=>ending ≠ .finish
 | .silent::kinds=>Alive ending kinds
 | .start::kinds=>StartsOnce kinds
 | .ping::kinds=>StartsOnce kinds
 | .error::_=>True
 | .stop::_=>False
 | .speaking::_=>False

def Over (s:Translator) : Prop := s.finished=true

variable {s:Translator}

theorem render_over (env:ResponsesEnv) (h:Over s) (event:SseEvent) : s.render env event=(s,[]):=by
 unfold render
 rw [show s.finished=true from h]
 rfl

theorem emit_nil (s:Translator) : emit (s,[])=(s,[]) := rfl

theorem renderAll_over (env:ResponsesEnv) (events:List SseEvent) (h:Over s) : renderAll env s events=(s,[]):=by
 induction events with
 | nil=>rfl
 | cons event events ih=>
  unfold renderAll
  rw [render_over env h,emit_nil]
  dsimp only
  rw [ih]
  rfl

theorem settle_over (h:Over s) (outputs:List Output) : settle (s,outputs)=(s,outputs):=by
 unfold settle
 dsimp only
 rw [show s.finished=true from h,Bool.not_true,Bool.and_false,Bool.false_and]
 rfl

theorem fail_over (h:Over s) (message:String) : s.fail message=(s,[]):=by
 unfold fail failWith
 rw [show s.finished=true from h,Bool.true_or]
 rfl

structure Live (s:Translator) : Prop where
 started : s.started=true
 finished : s.finished=false
 failed : s.failed=false

theorem Live.unfinished (h:Live s) : ¬(s.finished||s.failed)=true:=by
 rw [h.finished,h.failed]
 exact Bool.false_ne_true

/-- What ends a stream: payloads of its body, one terminal payload and `[DONE]`. -/
def Ends (s:Translator) (result:Translator×List Output) : Prop :=
 Over result.1 ∧ ∃ body terminal,(∀ payload∈body,isBody payload=true) ∧ isTerminal terminal=true ∧
  result.2=(number s.sequence (body++[terminal,.done])).2

theorem completed_ends (h:Live s) : Ends s (emit s.completed):=by
 have hbody:=body_closeOpenItems { s with finished := true }
 have hends:∀ terminal,isTerminal terminal=true →
   Ends s (emit (({ s with finished := true }).closeOpenItems.1,
    ({ s with finished := true }).closeOpenItems.2++[terminal,.done])):=by
  intro terminal hterminal
  refine ⟨hbody.finished,_,terminal,hbody.payloads,hterminal,?_⟩
  unfold emit
  dsimp only
  rw [hbody.sequence]
 unfold completed
 rw [if_neg h.unfinished]
 dsimp only
 split_ifs
 · exact hends _ rfl
 · exact hends _ rfl

theorem failWith_ends (h:Live s) (kind message:String) : Ends s (emit (s.failWith kind message)):=by
 unfold failWith
 rw [if_neg h.unfinished]
 dsimp only
 rw [if_pos h.started]
 exact ⟨rfl,[],_,nofun,rfl,rfl⟩

variable {emission:Emission} {result:Translator×List Output}

theorem Ends.after (h:Body s emission) (hends:Ends (emit emission).1 result) :
  Ends s (result.1,(emit emission).2++result.2):=by
 obtain ⟨hover,body,terminal,hbody,hterminal,houtputs⟩:=hends
 refine ⟨hover,emission.2++body,terminal,fun payload hmem=>?_,hterminal,?_⟩
 · exact (List.mem_append.mp hmem).elim (h.payloads payload) (hbody payload)
 · rw [List.append_assoc,number_append,← h.sequence]
   dsimp only
   rw [houtputs]
   rfl

def closing (ending:Ending) (rendered:Translator×List Output) : Translator×List Output :=
 match ending with
 | .finish=>settle rendered
 | .fail message=>
  ((rendered.1.fail message).1,rendered.2++(rendered.1.fail message).2)

theorem closing_append (ending:Ending) (s:Translator) (before outputs:List Output) :
  closing ending (s,before++outputs) = ((closing ending (s,outputs)).1,before++(closing ending (s,outputs)).2):=by
 cases ending with
 | finish=>
  unfold closing settle
  dsimp only
  split_ifs
  · rw [List.append_assoc]
  · rw [List.append_assoc]
  · rfl
 | fail message=>
  unfold closing
  dsimp only
  rw [List.append_assoc]

theorem closing_over (ending:Ending) (h:Over s) (outputs:List Output) : closing ending (s,outputs)=(s,outputs):=by
 cases ending with
 | finish=>exact settle_over h outputs
 | fail message=>
  unfold closing
  dsimp only
  rw [fail_over h,List.append_nil]

theorem closing_live (ending:Ending) (h:Live s) : Ends s (closing ending (s,[])):=by
 cases ending with
 | finish=>
  have hopen:(s.started&&!s.finished&&!s.failed)=true:=by
   rw [h.started,h.finished,h.failed]
   rfl
  unfold closing settle
  dsimp only
  rw [if_pos hopen]
  split_ifs
  · exact completed_ends h
  · exact failWith_ends h _ _
 | fail message=>exact failWith_ends h _ _

theorem closing_renderAll (env:ResponsesEnv) (ending:Ending) (s:Translator) (event:SseEvent) (events:List SseEvent) :
  closing ending (renderAll env s (event::events)) =
   ((closing ending (renderAll env (emit (s.render env event)).1 events)).1,
    (emit (s.render env event)).2 ++ (closing ending (renderAll env (emit (s.render env event)).1 events)).2) :=
 closing_append ending _ _ _

variable {env:ResponsesEnv} {value:JsonValue}

theorem render_value (hopen:¬(s.finished||s.failed)=true) {event:SseEvent}
  (hvalue:env.fromStr event.data=some value) : s.render env event=renderValue env s value:=by
 unfold render
 rw [if_neg hopen,hvalue]

theorem render_unread {event:SseEvent} (hvalue:env.fromStr event.data=none) : s.render env event=(s,[]):=by
 unfold render
 split_ifs
 · rfl
 · rw [hvalue]

theorem Live.body (h:Live s) (hbody:Body s emission) : Live (emit emission).1 :=
 ⟨hbody.started.trans h.started,hbody.finished.trans h.finished,hbody.failed.trans h.failed⟩

theorem deltaKind_cases (delta:JsonValue) : deltaKind delta=.speaking ∨ deltaKind delta=.silent:=by
 unfold deltaKind
 dsimp only
 split
 · split_ifs <;> simp
 · split_ifs <;> simp
 · split_ifs <;> simp
 · exact Or.inr rfl

theorem blockKind_cases (block:JsonValue) : blockKind block=.speaking ∨ blockKind block=.silent:=by
 unfold blockKind
 split
 · exact Or.inl rfl
 · exact Or.inl rfl
 · exact Or.inr rfl

inductive Renders (env:ResponsesEnv) (s:Translator) (value:JsonValue) : Kind → Prop where
 | start : renderValue env s value=s.messageStart value → Renders env s value .start
 | ping : renderValue env s value=s.ping → Renders env s value .ping
 | stop : renderValue env s value=s.completed → Renders env s value .stop
 | error : renderValue env s value=s.upstreamError value → Renders env s value .error
 | speaking : Body s (renderValue env s value) → Renders env s value .speaking
 | silent : Body s (renderValue env s value) → Renders env s value .silent

theorem renders_kind (env:ResponsesEnv) (s:Translator) (value:JsonValue) : Renders env s value (kindOf value):=by
 have hbody:∀ kind,Body s (renderValue env s value) → kind=.speaking ∨ kind=.silent → Renders env s value kind:=by
  rintro kind h (rfl | rfl)
  · exact .speaking h
  · exact .silent h
 unfold kindOf
 split
 · rename_i htype
   refine .start ?_
   unfold renderValue
   rw [htype]
   rfl
 · rename_i htype
   refine hbody _ ?_ (deltaKind_cases _)
   unfold renderValue
   rw [htype]
   exact body_contentBlockDelta s value
 · rename_i htype
   refine hbody _ ?_ (blockKind_cases _)
   unfold renderValue
   rw [htype]
   exact body_contentBlockStart s env value
 · rename_i htype
   refine .stop ?_
   unfold renderValue
   rw [htype]
   rfl
 · rename_i htype
   refine .error ?_
   unfold renderValue
   rw [htype]
   rfl
 · rename_i htype
   refine .ping ?_
   unfold renderValue
   rw [htype]
   rfl
 · refine .silent ?_
   unfold renderValue
   split
   all_goals first
    | contradiction
    | exact body_messageDelta s value
    | exact body_contentBlockStop s value
    | exact body_nil s

theorem live_closing (env:ResponsesEnv) (ending:Ending) (events:List SseEvent) :
  ∀ s:Translator,Live s →
   (StartsOnce (events.map (eventKind env)) → Ends s (closing ending (renderAll env s events))) ∧
   (¬StartsOnce (events.map (eventKind env)) →
    ∃ response, .created response ∈ (closing ending (renderAll env s events)).2.map payloadOf):=by
 induction events with
 | nil=>exact fun s h=>⟨fun _=>closing_live ending h,fun hnot=>absurd trivial hnot⟩
 | cons event events ih=>
  intro s h
  rw [closing_renderAll,List.map_cons]
  -- An event of the body leaves the rest as it is.
  have hgoes:∀ kind,Body s (s.render env event) → eventKind env event=kind →
    (StartsOnce (kind::events.map (eventKind env)) ↔ StartsOnce (events.map (eventKind env))) →
    (StartsOnce (eventKind env event::events.map (eventKind env)) →
     Ends s ((closing ending (renderAll env (emit (s.render env event)).1 events)).1,
      (emit (s.render env event)).2 ++ (closing ending (renderAll env (emit (s.render env event)).1 events)).2)) ∧
    (¬StartsOnce (eventKind env event::events.map (eventKind env)) →
     ∃ response, .created response∈((emit (s.render env event)).2 ++
      (closing ending (renderAll env (emit (s.render env event)).1 events)).2).map payloadOf):=by
   intro kind hbody hkind hiff
   obtain ⟨hends,hcreated⟩:=ih _ (h.body hbody)
   rw [hkind,hiff]
   refine ⟨fun hstarts=>(hends hstarts).after hbody,fun hnot=>?_⟩
   obtain ⟨response,hmem⟩:=hcreated hnot
   refine ⟨response,?_⟩
   rw [List.map_append]
   exact List.mem_append_right _ hmem
  -- An event that ends the stream leaves nothing to the rest.
  have hover:Ends s (emit (s.render env event)) →
    Ends s ((closing ending (renderAll env (emit (s.render env event)).1 events)).1,
     (emit (s.render env event)).2 ++
      (closing ending (renderAll env (emit (s.render env event)).1 events)).2):=by
   intro hends
   rw [renderAll_over env events hends.1,closing_over ending hends.1,List.append_nil]
   exact hends
  cases hvalue:env.fromStr event.data with
  | none=>
   have hkind:eventKind env event=.silent:=by
    unfold eventKind
    rw [hvalue]
   exact hgoes .silent (render_unread hvalue ▸ body_nil s) hkind Iff.rfl
  | some value=>
   have hrender:=render_value h.unfinished hvalue
   have hkind:eventKind env event=kindOf value:=by
    unfold eventKind
    rw [hvalue]
   have hrenders:=renders_kind env s value
   generalize kindOf value=kind at hkind hrenders
   cases hrenders with
   | start hstart=>
    rw [hkind]
    refine ⟨fun hfalse=>hfalse.elim,fun _=>?_⟩
    rw [hrender,hstart]
    exact ⟨_,List.mem_cons_self⟩
   | ping hping=>
    refine hgoes .ping ?_ hkind Iff.rfl
    rw [hrender,hping]
    unfold ping
    dsimp only
    rw [if_pos h.started]
    exact ⟨rfl,rfl,rfl,rfl,by simp [isBody,isTerminal]⟩
   | stop hstop=>
    rw [hkind]
    refine ⟨fun _=>hover ?_,fun hnot=>absurd trivial hnot⟩
    rw [hrender,hstop]
    exact completed_ends h
   | error herror=>
    rw [hkind]
    refine ⟨fun _=>hover ?_,fun hnot=>absurd trivial hnot⟩
    rw [hrender,herror]
    exact failWith_ends h _ _
   | speaking hbody=>exact hgoes .speaking (hrender ▸ hbody) hkind Iff.rfl
   | silent hbody=>exact hgoes .silent (hrender ▸ hbody) hkind Iff.rfl

structure Fresh (s:Translator) : Prop where
 started : s.started=false
 finished : s.finished=false
 failed : s.failed=false
 compactionItemId : s.compactionItemId=none
 compactionActiveIndex : s.compactionActiveIndex=none

theorem Fresh.unfinished (h:Fresh s) : ¬(s.finished||s.failed)=true:=by
 rw [h.finished,h.failed]
 exact Bool.false_ne_true

/-- Nothing is passed on, and the stream has still not begun. -/
def Quiet (s:Translator) (emission:Emission) : Prop :=
 emission.2=[] ∧ Fresh emission.1 ∧ emission.1.sequence=s.sequence

theorem quiet_nil (h:Fresh s) : Quiet s (s,[]) := ⟨rfl,h,rfl⟩

theorem isNone_of_silent {value:Option String}
  (h:(if value.isSome then Kind.speaking else Kind.silent)=.silent) : value=none:=by
 cases value with
 | none=>rfl
 | some text=>exact (nomatch h)

theorem isSome_of_speaking {value:Option String} (h:(if value.isSome then Kind.speaking else Kind.silent)=.speaking) :
  ∃ text,value=some text:=by
 cases value with
 | none=>exact (nomatch h)
 | some text=>exact ⟨text,rfl⟩

theorem quiet_contentBlockDelta (h:Fresh s) (hkind:deltaKind ((value.get "delta").getD .null)=.silent) :
  Quiet s (s.contentBlockDelta value):=by
 unfold deltaKind at hkind
 unfold contentBlockDelta
 dsimp only at hkind ⊢
 split at hkind
 · rename_i htype
   rw [htype,isNone_of_silent hkind]
   exact quiet_nil h
 · rename_i htype
   rw [htype,isNone_of_silent hkind]
   exact quiet_nil h
 · rename_i htype
   rw [htype,isNone_of_silent hkind]
   exact quiet_nil h
 · split
   all_goals first | contradiction | skip
   · split
     · unfold compactionTextDelta
       rw [h.compactionItemId]
       split_ifs <;> exact quiet_nil h
     · exact quiet_nil h
   · exact quiet_nil h

theorem blockKind_speaking {block:JsonValue} (h:blockKind block=.speaking) :
  (block.get "type").bind JsonValue.asStr=some "compaction" ∨
   (block.get "type").bind JsonValue.asStr=some "tool_use" := by
 unfold blockKind at h
 split at h
 · rename_i htype
   exact Or.inl htype
 · rename_i htype
   exact Or.inr htype
 · exact (nomatch h)

theorem contentBlockStart_silent (env:ResponsesEnv) (s:Translator)
  (h:blockKind ((value.get "content_block").getD .null)=.silent) : contentBlockStart env s value=(s,[]):=by
 unfold contentBlockStart
 dsimp only
 split
 · rename_i htype
   rw [blockKind,htype] at h
   exact (nomatch h)
 · rename_i htype
   rw [blockKind,htype] at h
   exact (nomatch h)
 · rfl

theorem quiet_silent (env:ResponsesEnv) (h:Fresh s) (hkind:kindOf value=.silent)
  : Quiet s (renderValue env s value):=by
 unfold kindOf at hkind
 split at hkind
 all_goals first | contradiction | skip
 · rename_i htype
   unfold renderValue
   rw [htype]
   exact quiet_contentBlockDelta h hkind
 · rename_i htype
   unfold renderValue
   rw [htype]
   change Quiet s (contentBlockStart env s value)
   rw [contentBlockStart_silent env s hkind]
   exact quiet_nil h
 · unfold renderValue
   split
   all_goals first | contradiction | skip
   · unfold messageDelta
     dsimp only
     cases value.get "usage" with
     | none=>exact ⟨rfl,⟨h.started,h.finished,h.failed,h.compactionItemId,
       h.compactionActiveIndex⟩,rfl⟩
     | some usage=>exact ⟨rfl,⟨h.started,h.finished,h.failed,h.compactionItemId,
       h.compactionActiveIndex⟩,rfl⟩
   · unfold contentBlockStop
     rw [h.compactionActiveIndex]
     exact quiet_nil h
   · exact quiet_nil h

theorem speaking_nonempty (env:ResponsesEnv) (s:Translator) (hkind:kindOf value=.speaking)
  : (renderValue env s value).2≠[]:=by
 unfold kindOf at hkind
 split at hkind
 all_goals first | contradiction | skip
 · rename_i htype
   unfold renderValue
   rw [htype]
   change (s.contentBlockDelta value).2≠[]
   unfold deltaKind at hkind
   unfold contentBlockDelta
   dsimp only at hkind ⊢
   split at hkind
   · rename_i hdelta
     obtain ⟨text,htext⟩:=isSome_of_speaking hkind
     rw [hdelta,htext]
     change (s.reasoningDelta text).2≠[]
     unfold reasoningDelta
     cases s.reasoningOutputIndex <;> exact List.cons_ne_nil _ _
   · rename_i hdelta
     obtain ⟨text,htext⟩:=isSome_of_speaking hkind
     rw [hdelta,htext]
     change (s.textDelta (some text)).2≠[]
     unfold textDelta
     cases s.textItemId <;> exact List.cons_ne_nil _ _
   · rename_i hdelta
     obtain ⟨text,htext⟩:=isSome_of_speaking hkind
     rw [hdelta,htext]
     change (s.inputJsonDelta _ text).2≠[]
     unfold inputJsonDelta
     dsimp only
     split <;> exact List.cons_ne_nil _ _
   · exact (nomatch hkind)
 · rename_i htype
   unfold renderValue
   rw [htype]
   change (contentBlockStart env s value).2≠[]
   unfold contentBlockStart
   dsimp only
   rcases blockKind_speaking hkind with hblock | hblock
   · rw [hblock]
     change (s.startCompaction _ _).2≠[]
     unfold startCompaction
     dsimp only
     split <;> exact List.cons_ne_nil _ _
   · rw [hblock]
     change (startToolUse env s _ _).2≠[]
     unfold startToolUse
     dsimp only
     split_ifs <;> exact List.cons_ne_nil _ _

/-- The payloads that a stream begins with, and its end. -/
def Lives (s:Translator) (result:Translator×List Output) : Prop :=
 Over result.1 ∧ ∃ response body terminal,(∀ payload∈body,isBody payload=true) ∧ isTerminal terminal=true ∧
  result.2=(number s.sequence (.created response::body++[terminal,.done])).2

/-- Nothing is said, or no `created` comes first, or one more follows. -/
def Misbegun (payloads:List Payload) : Prop :=
 payloads=[] ∨ ∃ first rest,payloads=first::rest ∧
  ((∀ response,first ≠ .created response) ∨ ∃ response, .created response∈rest)

theorem not_created {payload:Payload} (h:isBody payload=true ∨ isTerminal payload=true)
  (response:Response) : payload ≠ .created response:=by
 rintro rfl
 rcases h with h | h <;> exact (nomatch h)

theorem lives_of_ends {s':Translator} {response:Response} {before:List Payload}
  (hbefore:∀ payload∈before,isBody payload=true)
  (hsequence:s'.sequence=(number s.sequence (.created response::before)).1) (hends:Ends s' result) :
  Lives s (result.1,(number s.sequence (.created response::before)).2++result.2):=by
 obtain ⟨hover,body,terminal,hbody,hterminal,houtputs⟩:=hends
 refine ⟨hover,response,before++body,terminal,fun payload hmem=>?_,hterminal,?_⟩
 · exact (List.mem_append.mp hmem).elim (hbefore payload) (hbody payload)
 · have hsplit:Payload.created response::(before++body)++[terminal,.done] =
     (.created response::before)++(body++[terminal,.done]):=by
    rw [List.cons_append,List.cons_append,List.append_assoc]
   dsimp only
   rw [hsplit,number_append,houtputs,hsequence]

theorem emit_payloads (emission:Emission) : (emit emission).2.map payloadOf=emission.2 :=
 number_payloads _ _

theorem misbegun_first {first:Payload} {rest:List Payload}
  (hpayloads:emission.2=first::rest) (hfirst:∀ response,first ≠ .created response)
  (more:List Output) : Misbegun (((emit emission).2++more).map payloadOf):=by
 rw [List.map_append,emit_payloads,hpayloads]
 exact Or.inr ⟨first,_,rfl,Or.inl hfirst⟩

theorem misbegun_again {first:Payload} {rest:List Payload} (hpayloads:emission.2=first::rest) {more:List Output}
  (hmore:∃ response, .created response∈more.map payloadOf) : Misbegun (((emit emission).2++more).map payloadOf):=by
 obtain ⟨response,hmem⟩:=hmore
 rw [List.map_append,emit_payloads,hpayloads]
 exact Or.inr ⟨first,_,rfl,Or.inr ⟨response,List.mem_append_right _ hmem⟩⟩

theorem begun (env:ResponsesEnv) (ending:Ending) (events:List SseEvent) {response:Response}
  {before:List Payload} (hpayloads:emission.2=.created response::before)
  (hbefore:∀ payload∈before,isBody payload=true) (hlive:Live emission.1) (hsequence:emission.1.sequence=s.sequence) :
  (StartsOnce (events.map (eventKind env)) →
   Lives s ((closing ending (renderAll env (emit emission).1 events)).1,
    (emit emission).2++(closing ending (renderAll env (emit emission).1 events)).2)) ∧
  (¬StartsOnce (events.map (eventKind env)) →
   Misbegun (((emit emission).2 ++ (closing ending (renderAll env (emit emission).1 events)).2).map payloadOf)):=by
 have hstate:(emit emission).1.sequence=(number s.sequence (.created response::before)).1:=by
  unfold emit
  rw [hpayloads,hsequence]
 have houtputs:(emit emission).2=(number s.sequence (.created response::before)).2:=by
  unfold emit
  rw [hpayloads,hsequence]
 obtain ⟨hends,hcreated⟩:=live_closing env ending events (emit emission).1 ⟨hlive.started,hlive.finished,hlive.failed⟩
 constructor
 · intro hstarts
   rw [houtputs]
   exact lives_of_ends hbefore hstate (hends hstarts)
 · intro hnot
   exact misbegun_again hpayloads (hcreated hnot)

theorem completed_first (hopen:¬(s.finished||s.failed)=true) :
  ∃ first rest,s.completed.2=first::rest ∧ ∀ response,first ≠ .created response:=by
 have hbody:=body_closeOpenItems { s with finished := true }
 have hfirst:∀ terminal,isTerminal terminal=true → ∃ first rest,
   ({ s with finished := true }).closeOpenItems.2++[terminal,.done]=first::rest ∧
    ∀ response,first ≠ .created response:=by
  intro terminal hterminal
  cases hpayloads:({ s with finished := true }).closeOpenItems.2 with
  | nil=>exact ⟨terminal,_,rfl,not_created (Or.inr hterminal)⟩
  | cons first rest=>
   refine ⟨first,_,rfl,not_created (Or.inl (hbody.payloads first ?_))⟩
   rw [hpayloads]
   exact List.mem_cons_self
 unfold completed
 rw [if_neg hopen]
 dsimp only
 split_ifs
 · exact hfirst _ rfl
 · exact hfirst _ rfl

theorem failWith_lives (h:Fresh s) (kind message:String) : Lives s (emit (s.failWith kind message)):=by
 unfold failWith
 rw [if_neg h.unfinished]
 dsimp only
 rw [h.started,if_neg Bool.false_ne_true]
 exact ⟨rfl,_,[],_,nofun,rfl,rfl⟩

theorem messageStart_fields (s:Translator) (value:JsonValue) :
  (s.messageStart value).1.finished=s.finished ∧ (s.messageStart value).1.failed=s.failed ∧
   (s.messageStart value).1.sequence=s.sequence:=by
 unfold messageStart
 dsimp only
 cases member "usage" (value.get "message") with
 | none=>exact ⟨rfl,rfl,rfl⟩
 | some usage=>exact ⟨rfl,rfl,rfl⟩

theorem ping_unstarted (h:s.started=false) : s.ping=({ s with sawKeepalive := true,started := true },
      [.created ({ s with sawKeepalive := true,started := true }.baseResponse "in_progress" []),
       .inProgress ({ s with sawKeepalive := true,started := true }.baseResponse
        "in_progress" s.outputItems)]):=by
 unfold ping
 dsimp only
 rw [h,if_neg Bool.false_ne_true]

theorem quiet_closing {ending:Ending} {events:List SseEvent} {alive:Prop} (h:Quiet s emission)
  (hrest:∀ s:Translator,Fresh s → (alive → Lives s (closing ending (renderAll env s events))) ∧ (¬alive → Misbegun ((closing ending (renderAll env s events)).2.map payloadOf)))
  :
  (alive → Lives s ((closing ending (renderAll env (emit emission).1 events)).1,
   (emit emission).2++(closing ending (renderAll env (emit emission).1 events)).2)) ∧
  (¬alive → Misbegun (((emit emission).2 ++
   (closing ending (renderAll env (emit emission).1 events)).2).map payloadOf)):=by
 obtain ⟨hnil,hfresh,hsequence⟩:=h
 have hemit:emit emission=(emission.1,[]):=by
  unfold emit
  rw [hnil]
  rfl
 rw [hemit,List.nil_append]
 have hlater:=hrest _ hfresh
 unfold Lives at hlater ⊢
 rw [hsequence] at hlater
 exact hlater

theorem fresh_closing (env:ResponsesEnv) (ending:Ending) (events:List SseEvent) :
  ∀ s:Translator,Fresh s →
   (Alive ending (events.map (eventKind env)) → Lives s (closing ending (renderAll env s events))) ∧
   (¬Alive ending (events.map (eventKind env)) →
    Misbegun ((closing ending (renderAll env s events)).2.map payloadOf)):=by
 induction events with
 | nil=>
  intro s h
  cases ending with
  | finish=>
   refine ⟨fun hfalse=>absurd rfl hfalse,fun _=>Or.inl ?_⟩
   unfold closing settle
   dsimp only [renderAll]
   rw [h.started]
   rfl
  | fail message=>
   refine ⟨fun _=>?_,fun hnot=>absurd (nofun) hnot⟩
   exact failWith_lives h "api_error" message
 | cons event events ih=>
  intro s h
  rw [closing_renderAll,List.map_cons]
  cases hvalue:env.fromStr event.data with
  | none=>
   have hkind:eventKind env event=.silent:=by
    unfold eventKind
    rw [hvalue]
   rw [hkind]
   exact quiet_closing (render_unread hvalue ▸ quiet_nil h) ih
  | some value=>
   have hrender:=render_value h.unfinished hvalue
   have hkind:eventKind env event=kindOf value:=by
    unfold eventKind
    rw [hvalue]
   have hrenders:=renders_kind env s value
   cases hvalueKind:kindOf value with
   | silent=>
    rw [hkind,hvalueKind]
    exact quiet_closing (hrender ▸ quiet_silent env h hvalueKind) ih
   | speaking=>
    rw [hvalueKind] at hrenders
    cases hrenders with
    | speaking hbody=>
     rw [hkind,hvalueKind,hrender]
     refine ⟨fun hfalse=>hfalse.elim,fun _=>?_⟩
     obtain ⟨first,rest,hpayloads⟩ :=
      List.exists_cons_of_ne_nil (speaking_nonempty env s hvalueKind)
     refine misbegun_first hpayloads (not_created (Or.inl (hbody.payloads first ?_))) _
     rw [hpayloads]
     exact List.mem_cons_self
   | start=>
    rw [hvalueKind] at hrenders
    cases hrenders with
    | start hstart=>
     rw [hkind,hvalueKind,hrender,hstart]
     obtain ⟨hfinished,hfailed,hsequence⟩:=messageStart_fields s value
     exact begun env ending events rfl nofun ⟨rfl,hfinished.trans h.finished,hfailed.trans h.failed⟩ hsequence
   | ping=>
    rw [hvalueKind] at hrenders
    cases hrenders with
    | ping hping=>
     rw [hkind,hvalueKind,hrender,hping,ping_unstarted h.started]
     refine begun env ending events rfl ?_ ⟨rfl,h.finished,h.failed⟩ rfl
     simp [isBody,isTerminal]
   | stop=>
    rw [hvalueKind] at hrenders
    cases hrenders with
    | stop hstop=>
     rw [hkind,hvalueKind,hrender,hstop]
     obtain ⟨first,rest,hpayloads,hfirst⟩:=completed_first h.unfinished
     exact ⟨fun hfalse=>hfalse.elim,fun _=>misbegun_first hpayloads hfirst _⟩
   | error=>
    rw [hvalueKind] at hrenders
    cases hrenders with
    | error herror=>
     rw [hkind,hvalueKind,hrender,herror]
     refine ⟨fun _=>?_,fun hnot=>absurd trivial hnot⟩
     have hlives:=failWith_lives h (((member "type" (value.get "error")).bind JsonValue.asStr).getD "api_error")
      (((member "message" (value.get "error")).bind JsonValue.asStr).getD "upstream error")
     unfold upstreamError
     rw [renderAll_over env _ hlives.1,closing_over ending hlives.1,List.append_nil]
     exact hlives

inductive Call where
 | push (chunk:List UInt8)
 | finish
 | fail (message:String)

def call (env:ResponsesEnv) (s:AnthropicToResponses) : Call → AnthropicToResponses×List Output
 | .push chunk=>s.push env chunk
 | .finish=>s.finish env
 | .fail message=>s.fail message

def calls (env:ResponsesEnv) : AnthropicToResponses → List Call → AnthropicToResponses×List Output
 | s,[]=>(s,[])
 | s,next::rest=>
  ((calls env (call env s next).1 rest).1,(call env s next).2++(calls env (call env s next).1 rest).2)

def Ending.call : Ending → Call
 | .finish=>.finish
 | .fail message=>.fail message

def life (env:ResponsesEnv) (s:AnthropicToResponses) (chunks:List (List UInt8))
  (ending:Ending) : AnthropicToResponses×List Output :=
 calls env s (chunks.map .push++[ending.call])

def readChunks (env:ResponsesEnv) : List UInt8 → List (List UInt8) → List SseEvent×List UInt8
 | buffer,[]=>([],buffer)
 | buffer,chunk::chunks=>match splitReady (buffer++chunk) with
  | some (ready,rest)=>
   (parseSseEvents env ready++(readChunks env rest chunks).1,(readChunks env rest chunks).2)
  | none=>readChunks env (buffer++chunk) chunks

/-- `finish` reads what is left, `fail` does not. -/
def eventsRead (env:ResponsesEnv) (buffer:List UInt8) (chunks:List (List UInt8)) : Ending → List SseEvent
 | .finish=>(readChunks env buffer chunks).1 ++
   parseSseEvents env (readChunks env buffer chunks).2
 | .fail _=>(readChunks env buffer chunks).1

theorem eventsRead_push (env:ResponsesEnv) (buffer chunk:List UInt8) (chunks:List (List UInt8)) (ending:Ending) :
  eventsRead env buffer (chunk::chunks) ending = match splitReady (buffer++chunk) with
   | some (ready,rest)=>parseSseEvents env ready++eventsRead env rest chunks ending
   | none=>eventsRead env (buffer++chunk) chunks ending:=by
 cases ending with
 | finish=>
  unfold eventsRead
  rw [readChunks]
  cases splitReady (buffer++chunk) with
  | some parts=>exact List.append_assoc _ _ _
  | none=>rfl
 | fail message=>
  unfold eventsRead
  rw [readChunks]
  cases splitReady (buffer++chunk) with
  | some parts=>rfl
  | none=>rfl

theorem life_closing (env:ResponsesEnv) (ending:Ending) (chunks:List (List UInt8)) :
  ∀ s:AnthropicToResponses,
   (life env s chunks ending).1.state =
    (closing ending (renderAll env s.state (eventsRead env s.buffer chunks ending))).1 ∧
   (life env s chunks ending).2 =
    (closing ending (renderAll env s.state (eventsRead env s.buffer chunks ending))).2:=by
 induction chunks with
 | nil=>
  intro s
  cases ending with
  | finish=>exact ⟨rfl,List.append_nil _⟩
  | fail message=>exact ⟨rfl,List.append_nil _⟩
 | cons chunk chunks ih=>
  intro s
  obtain ⟨hstate,houtputs⟩:=ih (s.push env chunk).1
  have hlife:life env s (chunk::chunks) ending =
    ((life env (s.push env chunk).1 chunks ending).1,
     (s.push env chunk).2++(life env (s.push env chunk).1 chunks ending).2) := rfl
  rw [hlife,hstate,houtputs,eventsRead_push]
  unfold AnthropicToResponses.push
  cases splitReady (s.buffer++chunk) with
  | none=>exact ⟨rfl,rfl⟩
  | some parts=>
   dsimp only
   rw [ResponsesChunking.renderAll_append,closing_append]
   exact ⟨rfl,rfl⟩

theorem call_over (env:ResponsesEnv) {s:AnthropicToResponses} (h:Over s.state)
  (next:Call) : Over (call env s next).1.state ∧ (call env s next).2=[]:=by
 cases next with
 | push chunk=>
  unfold call AnthropicToResponses.push
  dsimp only
  cases splitReady (s.buffer++chunk) with
  | none=>exact ⟨h,rfl⟩
  | some parts=>
   dsimp only
   rw [renderAll_over env _ h]
   exact ⟨h,rfl⟩
 | finish=>
  unfold call AnthropicToResponses.finish
  dsimp only
  rw [renderAll_over env _ h,settle_over h]
  exact ⟨h,rfl⟩
 | fail message=>
  unfold call AnthropicToResponses.fail
  dsimp only
  rw [fail_over h]
  exact ⟨h,rfl⟩

theorem calls_over (env:ResponsesEnv) (more:List Call) : ∀ s:AnthropicToResponses,
  Over s.state → (calls env s more).2=[]:=by
 induction more with
 | nil=>exact fun _ _=>rfl
 | cons next more ih=>
  intro s h
  obtain ⟨hover,houtputs⟩:=call_over env h next
  unfold calls
  dsimp only
  rw [houtputs,ih _ hover]
  rfl

/-- One `created` first, one terminal event last before `[DONE]`, and no number left out. -/
def OneLife (outputs:List Output) : Prop :=
 (∃ response body terminal,(∀ payload∈body,isBody payload=true) ∧ isTerminal terminal=true ∧
  outputs.map payloadOf=.created response::body++[terminal,.done]) ∧
 ∃ count,sequenceNumbers outputs=List.range count

theorem oneLife_of_lives (hsequence:s.sequence=0) (h:Lives s result) : OneLife result.2:=by
 obtain ⟨-,response,body,terminal,hbody,hterminal,houtputs⟩:=h
 rw [houtputs,hsequence]
 obtain ⟨count,hcount⟩:=number_sequence (.created response::body++[terminal,.done]) 0
 refine ⟨⟨response,body,terminal,hbody,hterminal,number_payloads _ _⟩,count,?_⟩
 rw [hcount,List.range_eq_range']

theorem not_oneLife_of_misbegun {outputs:List Output} (h:Misbegun (outputs.map payloadOf)) : ¬OneLife outputs:=by
 rintro ⟨⟨response,body,terminal,hbody,hterminal,hpayloads⟩,-⟩
 rw [hpayloads] at h
 rcases h with hnil | ⟨first,rest,hcons,hfirst | ⟨again,hagain⟩⟩
 · exact absurd hnil (List.cons_ne_nil _ _)
 · exact hfirst response (List.cons.inj hcons).1.symm
 · rw [← (List.cons.inj hcons).2] at hagain
   rcases List.mem_append.mp hagain with hmem | hmem
   · exact not_created (Or.inl (hbody _ hmem)) again rfl
   · rcases List.mem_cons.mp hmem with rfl | hmem
     · exact not_created (Or.inr hterminal) again rfl
     · exact absurd (List.mem_singleton.mp hmem) (nofun)

theorem fresh_new (id model:String) : Fresh (Translator.new id model) :=
 ⟨rfl,rfl,rfl,rfl,rfl⟩

/-- The outputs carry the numbers that follow those of the translator. -/
def Numbered (s:Translator) (result:Translator×List Output) : Prop :=
 ∃ payloads,result.2=(number s.sequence payloads).2 ∧ result.1.sequence=(number s.sequence payloads).1

theorem Numbered.refl (s:Translator) : Numbered s (s,[]) := ⟨[],rfl,rfl⟩

theorem Numbered.trans {s':Translator} {before:List Output} (h:Numbered s (s',before)) (h':Numbered s' result) :
  Numbered s (result.1,before++result.2):=by
 obtain ⟨payloads,hbefore,hsequence⟩:=h
 obtain ⟨more,hafter,hlast⟩:=h'
 rw [hsequence] at hafter hlast
 refine ⟨payloads++more,?_,?_⟩
 · rw [number_append]
   exact congrArg₂ _ hbefore hafter
 · rw [number_append]
   exact hlast

theorem emit_numbered {emission:Emission} (h:emission.1.sequence=s.sequence) : Numbered s (emit emission) :=
 ⟨emission.2,by rw [← h]; rfl,by rw [← h]; rfl⟩

theorem completed_sequence (s:Translator) : s.completed.1.sequence=s.sequence:=by
 have hclosed:=(body_closeOpenItems { s with finished := true }).sequence
 unfold completed
 dsimp only
 split_ifs
 · rfl
 · exact hclosed
 · exact hclosed

theorem failWith_sequence (s:Translator) (kind message:String) : (s.failWith kind message).1.sequence=s.sequence:=by
 unfold failWith
 dsimp only
 split_ifs <;> rfl

theorem render_sequence (env:ResponsesEnv) (s:Translator) (event:SseEvent) : (s.render env event).1.sequence=s.sequence:=by
 unfold render
 split_ifs
 · rfl
 cases env.fromStr event.data with
 | none=>rfl
 | some value=>
  dsimp only
  have hrenders:=renders_kind env s value
  generalize kindOf value=kind at hrenders
  cases hrenders with
  | start h=>rw [h]; exact (messageStart_fields s value).2.2
  | ping h=>
   rw [h,ping]
   dsimp only
   split_ifs <;> rfl
  | stop h=>rw [h,completed_sequence]
  | error h=>rw [h,upstreamError,failWith_sequence]
  | speaking h=>exact h.sequence
  | silent h=>exact h.sequence

theorem renderAll_numbered (env:ResponsesEnv) (events:List SseEvent) : ∀ s:Translator,Numbered s (renderAll env s events):=by
 induction events with
 | nil=>exact .refl
 | cons event events ih=>
  intro s
  exact (emit_numbered (render_sequence env s event)).trans (ih _)

theorem settle_numbered (h:Numbered s result) : Numbered s (settle result):=by
 unfold settle
 dsimp only
 split_ifs
 · exact h.trans (emit_numbered (completed_sequence _))
 · exact h.trans (emit_numbered (failWith_sequence _ _ _))
 · exact h

theorem call_numbered (env:ResponsesEnv) (s:AnthropicToResponses) (next:Call) :
  Numbered s.state ((call env s next).1.state,(call env s next).2):=by
 cases next with
 | push chunk=>
  change Numbered s.state ((s.push env chunk).1.state,(s.push env chunk).2)
  unfold AnthropicToResponses.push
  cases splitReady (s.buffer++chunk) with
  | none=>exact .refl _
  | some parts=>exact renderAll_numbered env _ _
 | finish=>exact settle_numbered (renderAll_numbered env _ _)
 | fail message=>exact emit_numbered (failWith_sequence _ _ _)

/-- Whatever is pushed and however the calls follow each other, also behind the end, the events are
numbered from 0 with none left out and none twice. -/
theorem calls_numbered (env:ResponsesEnv) (id model:String) (list:List Call) :
  ∃ count,sequenceNumbers (calls env (.new id model) list).2=List.range count:=by
 have hnumbered:∀ s,Numbered s.state ((calls env s list).1.state,(calls env s list).2):=by
  induction list with
  | nil=>exact fun s=>.refl s.state
  | cons next rest ih=>exact fun s=>(call_numbered env s next).trans (ih _)
 obtain ⟨payloads,houtputs,-⟩:=hnumbered (.new id model)
 obtain ⟨count,hcount⟩:=number_sequence payloads 0
 exact ⟨count,by rw [List.range_eq_range',← hcount]; exact congrArg sequenceNumbers houtputs⟩

def startEnv : ResponsesEnv where
 fromUtf8Lossy bytes := bytes.map fun byte=>Char.ofNat byte.toNat
 fromStr text := if text = "\x7b\"type\":\"ping\"\x7d".toList then
   some (.object [("type",.string "ping")])
  else if text = "\x7b\"type\":\"message_start\"\x7d".toList then
   some (.object [("type",.string "message_start")])
  else none
 toString _ := ""

def earlyPing : List UInt8 :=
 bytesOf ("data: \x7b\"type\":\"ping\"\x7d\n\ndata: \x7b\"type\":\"message_start\"\x7d\n\n").toList

/-- The stream has one life exactly when a start, a ping or an error is the first thing that
is passed on, and no start follows it. -/
theorem one_life_iff (env:ResponsesEnv) (id model:String) (chunks:List (List UInt8)) (ending:Ending) :
    (OneLife (life env (.new id model) chunks ending).2 ∧
      ∀ more,(calls env (life env (.new id model) chunks ending).1 more).2=[]) ↔
    Alive ending ((eventsRead env [] chunks ending).map (eventKind env)):=by
  obtain ⟨hstate,houtputs⟩:=life_closing env ending chunks (.new id model)
  obtain ⟨hlives,hmisbegun⟩ :=
    fresh_closing env ending (eventsRead env [] chunks ending) _ (fresh_new id model)
  constructor
  · rintro ⟨hone,-⟩
    by_contra hnot
    rw [houtputs] at hone
    exact not_oneLife_of_misbegun (hmisbegun hnot) hone
  · intro halive
    have hends:=hlives halive
    refine ⟨?_,fun more=>calls_over env more _ ?_⟩
    · rw [houtputs]
      exact oneLife_of_lives rfl hends
    · rw [hstate]
      exact hends.1

theorem earlyPing_kinds : (eventsRead startEnv [] [earlyPing] .finish).map (eventKind startEnv)=[.ping,.start]:=by
 decide +kernel

/-- The start after the ping is a second `created`. -/
theorem early_ping_created_twice : ¬OneLife (life startEnv (.new "r" "m") [earlyPing] .finish).2:=by
  obtain ⟨-,houtputs⟩:=life_closing startEnv .finish [earlyPing] (.new "r" "m")
  have hnot:¬Alive .finish ((eventsRead startEnv [] [earlyPing] .finish).map (eventKind startEnv)):=by
    rw [earlyPing_kinds]
    exact fun hstarts=>hstarts
  rw [houtputs]
  exact not_oneLife_of_misbegun ((fresh_closing startEnv .finish _ _ (fresh_new "r" "m")).2 hnot)

end CursorProxy.ResponsesLife
