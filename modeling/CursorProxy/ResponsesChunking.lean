import CursorProxy.ResponsesStream

namespace CursorProxy.ResponsesChunking
open JsonValues XmlElements SseEvents ResponsesStream Translator

theorem splitReady_spec (bytes:List UInt8) : ∀ ready rest,
  splitReady bytes=some (ready,rest) → ready++rest=bytes ∧ ∃ before,ready=before++[10,10]:=by
 induction bytes with
 | nil=>exact fun _ _ h=>(nomatch h)
 | cons byte bytes ih=>
  intro ready rest h
  unfold splitReady at h
  cases hsplit:splitReady bytes with
  | some parts=>
   rw [hsplit] at h
   obtain ⟨rfl,rfl⟩:=Prod.mk.inj (Option.some.inj h)
   obtain ⟨hbytes,before,hbefore⟩:=ih _ _ hsplit
   exact ⟨congrArg (byte :: ·) hbytes,byte::before,congrArg (byte :: ·) hbefore⟩
  | none=>
   rw [hsplit] at h
   dsimp only at h
   split at h
   · obtain ⟨rfl,rfl⟩:=Prod.mk.inj (Option.some.inj h)
     exact ⟨rfl,[],rfl⟩
   · exact (nomatch h)

theorem newline_not_mem (char:Char) (hchar:char ≠ '\n') : (10:UInt8) ∉ String.utf8EncodeChar char:=by
 intro hmem
 have hcode:char.toNat=10:=ascii_of_mem (by decide) hmem
 exact hchar (Char.toNat_inj.mp hcode)

theorem bytesOf_newline (text:Text) : ∀ before after : List UInt8,
  bytesOf text=before++10::after →
   ∃ text₁ text₂,text=text₁ ++ '\n' :: text₂ ∧ bytesOf text₁=before ∧ bytesOf text₂=after:=by
 induction text with
 | nil=>
  intro before after h
  exact absurd h.symm (List.append_ne_nil_of_right_ne_nil _ (List.cons_ne_nil _ _))
 | cons char text ih=>
  intro before after h
  change String.utf8EncodeChar char++bytesOf text=before++10::after at h
  by_cases hchar:char = '\n'
  · subst hchar
    change 10::bytesOf text=before++10::after at h
    cases before with
    | nil=>exact ⟨[],text,rfl,rfl,(List.cons.inj h).2⟩
    | cons byte before=>
     obtain ⟨rfl,hrest⟩:=List.cons.inj h
     obtain ⟨text₁,text₂,rfl,rfl,rfl⟩:=ih before after hrest
     exact ⟨'\n' :: text₁,text₂,rfl,rfl,rfl⟩
  · rcases List.append_eq_append_iff.mp h with ⟨before',rfl,hrest⟩ | ⟨bytes,heq,hrest⟩
    · obtain ⟨text₁,text₂,rfl,rfl,rfl⟩:=ih before' after hrest
      exact ⟨char::text₁,text₂,rfl,rfl,rfl⟩
    · cases bytes with
      | nil=>
       obtain ⟨text₁,text₂,rfl,hbytes,rfl⟩:=ih [] after hrest.symm
       refine ⟨char::text₁,text₂,rfl,?_,rfl⟩
       change String.utf8EncodeChar char++bytesOf text₁=before
       rw [hbytes,heq,List.append_nil,List.append_nil]
      | cons byte bytes=>
       obtain ⟨rfl,-⟩:=List.cons.inj hrest
       refine absurd ?_ (newline_not_mem char hchar)
       rw [heq]
       exact List.mem_append_right before List.mem_cons_self

/-- The chunks one by one, and the end of the stream. -/
def translate (env:ResponsesEnv) : AnthropicToResponses → List (List UInt8) → AnthropicToResponses×List Output
 | s,[]=>s.finish env
 | s,chunk::chunks=>
  ((translate env (s.push env chunk).1 chunks).1,(s.push env chunk).2++(translate env (s.push env chunk).1 chunks).2)

theorem renderAll_cons (env:ResponsesEnv) (s:Translator) (event:SseEvent)
  (events:List SseEvent) : renderAll env s (event::events) =
   ((renderAll env (emit (s.render env event)).1 events).1,
    (emit (s.render env event)).2++(renderAll env (emit (s.render env event)).1 events).2) :=
 rfl

theorem renderAll_append (env:ResponsesEnv) (events more:List SseEvent) : ∀ s:Translator,
  renderAll env s (events++more)=((renderAll env (renderAll env s events).1 more).1,
   (renderAll env s events).2++(renderAll env (renderAll env s events).1 more).2):=by
 induction events with
 | nil=>exact fun _=>rfl
 | cons event events ih=>
  intro s
  rw [List.cons_append,renderAll_cons,ih,renderAll_cons,List.append_assoc]

theorem settle_append (s:Translator) (before outputs:List Output) :
  settle (s,before++outputs)=((settle (s,outputs)).1,before++(settle (s,outputs)).2):=by
 unfold settle
 dsimp only
 split_ifs
 · rw [List.append_assoc]
 · rw [List.append_assoc]
 · rfl

section runs
variable (env:ResponsesEnv) (hlossy:∀ text,env.fromUtf8Lossy (bytesOf text)=text)
include hlossy

theorem translate_eq (chunks:List (List UInt8)) : ∀ (s:AnthropicToResponses) (text:Text),
  s.buffer++chunks.flatten=bytesOf text →
  translate env s chunks=(⟨[],(settle (renderAll env s.state (parseSseText text))).1⟩,
   (settle (renderAll env s.state (parseSseText text))).2):=by
 induction chunks with
 | nil=>
  intro s text h
  rw [List.flatten_nil,List.append_nil] at h
  unfold translate AnthropicToResponses.finish parseSseEvents
  rw [h,hlossy]
 | cons chunk chunks ih=>
  intro s text h
  rw [List.flatten_cons,← List.append_assoc] at h
  unfold translate AnthropicToResponses.push
  cases hsplit:splitReady (s.buffer++chunk) with
  | none=>
   dsimp only
   rw [ih ⟨s.buffer++chunk,s.state⟩ text h]
   rfl
  | some parts=>
   obtain ⟨ready,rest⟩:=parts
   obtain ⟨hbytes,before,rfl⟩:=splitReady_spec _ _ _ hsplit
   rw [← hbytes,List.append_assoc,List.append_assoc] at h
   obtain ⟨text₁,tail,rfl,hbefore,htail⟩:=bytesOf_newline text before _ h.symm
   obtain ⟨empty,text₂,rfl,hempty,hrest⟩:=bytesOf_newline tail [] _ htail
   cases empty with
   | cons char empty=>
    exact absurd (List.flatMap_eq_nil_iff.mp hempty char List.mem_cons_self) String.utf8EncodeChar_ne_nil
   | nil=>
    have hready:parseSseEvents env (before++[10,10]) = parseSseText (text₁++['\n','\n']):=by
     have hencoded:before++[10,10]=bytesOf (text₁++['\n','\n']):=by
      rw [bytesOf_append,hbefore]
      rfl
     unfold parseSseEvents
     rw [hencoded,hlossy]
    dsimp only
    rw [hready,ih (AnthropicToResponses.mk rest _) text₂ hrest.symm]
    change _=(AnthropicToResponses.mk [] (settle (renderAll env s.state
     (parseSseText (text₁ ++ '\n' :: '\n' :: text₂)))).1,(settle (renderAll env s.state
     (parseSseText (text₁ ++ '\n' :: '\n' :: text₂)))).2)
    rw [parseSseText_append text₁ text₂,renderAll_append,settle_append]

/-- The output of a stream of characters is the same for all its divisions into chunks. -/
theorem chunks_irrelevant (id model:String) (text:Text) (chunks:List (List UInt8))
    (hchunks:chunks.flatten=bytesOf text) :
    translate env (.new id model) chunks=translate env (.new id model) [bytesOf text]:=by
  rw [translate_eq env hlossy chunks (.new id model) text hchunks,
    translate_eq env hlossy [bytesOf text] (.new id model) text (List.append_nil _)]

end runs

def sampleEnv : ResponsesEnv where
 fromUtf8Lossy bytes := ((bytes.toByteArray.utf8Decode?).map Array.toList).getD []
 fromStr text := if text = "\x7b\"type\":\"ping\"\x7d".toList
  then some (.object [("type",.string "ping")]) else none
 toString _ := "\x7b\"type\":\"ping\"\x7d"

theorem sampleEnv_lossy (text:Text) : sampleEnv.fromUtf8Lossy (bytesOf text)=text:=by
 have hdecoded:(bytesOf text).toByteArray.utf8Decode?=some text.toArray :=
  List.utf8Decode?_utf8Encode
 unfold sampleEnv
 dsimp only
 rw [hdecoded]
 rfl

/-- The line end of an event is cut in two. -/
theorem chunks_irrelevant_cut :
    translate sampleEnv (.new "r" "m") [bytesOf "data: \x7b\"type\":\"ping\"\x7d\r".toList,bytesOf "\n\n".toList] =
      translate sampleEnv (.new "r" "m") [bytesOf ("data: \x7b\"type\":\"ping\"\x7d\r".toList ++ "\n\n".toList)]:=by
  refine chunks_irrelevant sampleEnv sampleEnv_lossy "r" "m" _ _ ?_
  rw [bytesOf_append,List.flatten_cons,List.flatten_cons,List.flatten_nil,List.append_nil]

end CursorProxy.ResponsesChunking
