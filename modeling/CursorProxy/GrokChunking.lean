import CursorProxy.GrokStream
import CursorProxy.StableJson

namespace CursorProxy.GrokChunking
open ChunkedPipes GrokReducer GrokStream JsonValues

/-- What the client receives, and the failure with the number of events in front of it. -/
structure Delivered where
 bytes : List UInt8
 failure : Option (ℕ×GrokError)

/-- The end of the input is a failure if the stream is not finished. -/
def closingFailure (s:LiveStreamTranslator) : Option (ℕ×GrokError) :=
 match finishTranslator s with
 | .error error=>some (s.handled,error)
 | .ok ()=>none

def live (env:StreamEnv) (messageId model:String) (chunks:List (List UInt8)) : Delivered :=
 let (out,last):=(pipe env).run (newTranslator messageId model) chunks
 ⟨out.flatMap (encode env),match last with
  | .error failure=>some failure
  | .ok s=>closingFailure s⟩

/-- However the input is cut, the client receives the same, and what lies before a failure. -/
structure ChunkingIrrelevant (env:StreamEnv) (messageId model:String) (input:List UInt8) :
  Prop where
 cuts : ∀ chunks,chunks.flatten=input → live env messageId model chunks=live env messageId model [input]
 whole : ∀ chunks,chunks.flatten=input → ∀ bytes,
  translateStreamBytes env input messageId model=.ok bytes ↔ live env messageId model chunks=⟨bytes,none⟩
 delivered : ∀ chunks,chunks.flatten=input →
  (live env messageId model chunks).bytes = (live env messageId model (Pipe.singles input)).bytes

/-- The input is translated byte by byte, or fails before anything is shown and the decoder
does not fail behind that place. -/
def HarmlessFailure (env:StreamEnv) (messageId model:String) (input:List UInt8) : Prop :=
 let bytewise:=(pipe env).run (newTranslator messageId model) (Pipe.singles input)
 (∃ s,bytewise.2=.ok s) ∨
  bytewise.1=[] ∧ ∀ count error,(pipe env).readAll .new input=.error (count,error) → bytewise.2=.error (count,error)

theorem encode_ne (env:StreamEnv) (event:StreamEvent) : encode env event≠[]:=by
 intro hempty
 have hhead:(encode env event).head?=some 101:=rfl
 rw [hempty] at hhead
 exact (nomatch hhead)

theorem encoded_nil {env:StreamEnv} {out:List StreamEvent} (h:out.flatMap (encode env)=[]) : out=[]:=by
 cases out with
 | nil=>rfl
 | cons event out=>exact absurd (List.append_eq_nil_iff.mp h).1 (encode_ne env event)

section outcomes
variable {env:StreamEnv} {messageId model:String} {input:List UInt8}

theorem live_ok {out:List StreamEvent} {s:LiveStreamTranslator}
  (h:(pipe env).push (newTranslator messageId model) input=.ok (out,s))
  {chunks:List (List UInt8)} (hchunks:chunks.flatten=input) :
  live env messageId model chunks=⟨out.flatMap (encode env),closingFailure s⟩:=by
 subst hchunks
 unfold live
 rw [(pipe env).run_ok chunks h]

theorem live_single_error {failure:ℕ×GrokError}
  (h:(pipe env).push (newTranslator messageId model) input=.error failure) :
  live env messageId model [input]=⟨[],some failure⟩:=by
 unfold live Pipe.run
 rw [h]
 rfl

theorem live_error {failure:ℕ×GrokError} (h:(pipe env).push (newTranslator messageId model) input=.error failure)
  {chunks:List (List UInt8)} (hchunks:chunks.flatten=input) : ∃ failure,
   ((pipe env).run (newTranslator messageId model) chunks).2=.error failure:=by
 cases hlast:((pipe env).run (newTranslator messageId model) chunks).2 with
 | error failure=>exact ⟨failure,rfl⟩
 | ok s=>
  have hpush:=(pipe env).push_of_run chunks (Prod.ext rfl hlast)
  rw [hchunks,h] at hpush
  exact (nomatch hpush)

theorem translate_ok {out:List StreamEvent} {s:LiveStreamTranslator}
  (h:(pipe env).push (newTranslator messageId model) input=.ok (out,s))
  (bytes:List UInt8) : translateStreamBytes env input messageId model=.ok bytes ↔
   (⟨out.flatMap (encode env),closingFailure s⟩ : Delivered)=⟨bytes,none⟩:=by
 unfold translateStreamBytes translateStream closingFailure
 rw [h]
 dsimp only
 cases finishTranslator s with
 | error error=>exact iff_of_false nofun nofun
 | ok _=>
  constructor
  · intro hbytes
    rw [← Except.ok.inj hbytes]
  · intro hbytes
    rw [← (Delivered.mk.inj hbytes).1]
    rfl

theorem translate_error {failure:ℕ×GrokError} (h:(pipe env).push (newTranslator messageId model) input=.error failure)
  (bytes:List UInt8) : translateStreamBytes env input messageId model ≠ .ok bytes:=by
 unfold translateStreamBytes translateStream
 rw [h]
 exact nofun

end outcomes

/-- Chunks make no difference exactly if a failure is harmless. -/
theorem chunking_irrelevant_iff (env:StreamEnv) (messageId model:String)
    (input:List UInt8) : ChunkingIrrelevant env messageId model input ↔ HarmlessFailure env messageId model input:=by
  cases hpush:(pipe env).push (newTranslator messageId model) input with
  | ok pushed=>
    obtain ⟨out,s⟩:=pushed
    have hlive:=fun (chunks:List (List UInt8)) (hchunks:chunks.flatten=input)=>
      live_ok hpush hchunks
    refine iff_of_true ⟨?_,?_,?_⟩ (Or.inl ⟨s,?_⟩)
    · intro chunks hchunks
      rw [hlive chunks hchunks,hlive [input] (List.append_nil input)]
    · intro chunks hchunks bytes
      rw [hlive chunks hchunks]
      exact translate_ok hpush bytes
    · intro chunks hchunks
      rw [hlive chunks hchunks,hlive _ (Pipe.flatten_singles input)]
    · rw [(pipe env).run_ok (Pipe.singles input) (by rw [Pipe.flatten_singles]; exact hpush)]
  | error failure=>
    have hzero:∀ count,(newTranslator messageId model).handled+count=count:=Nat.zero_add
    have hagree:=(pipe env).cuts_agree_iff input hpush
    simp only [hzero] at hagree
    constructor
    · intro h
      refine Or.inr (hagree.mp fun chunks hchunks=>?_)
      have hsame:=(h.cuts chunks hchunks).trans (live_single_error hpush)
      obtain ⟨failure',hfailure⟩:=live_error hpush hchunks
      unfold live at hsame
      generalize (pipe env).run (newTranslator messageId model) chunks=result at hsame hfailure
      obtain ⟨out,last⟩:=result
      obtain rfl : last=.error failure':=hfailure
      obtain ⟨hbytes,hsome⟩:=Delivered.mk.inj hsame
      exact Prod.ext (encoded_nil hbytes) (congrArg Except.error (Option.some.inj hsome))
    · rintro (⟨s,hok⟩ | hsilent)
      · obtain ⟨failure',hfailure⟩:=live_error hpush (Pipe.flatten_singles input)
        exact (nomatch hok.symm.trans hfailure)
      · have hrun:=hagree.mpr hsilent
        have hlive:∀ chunks,chunks.flatten=input → live env messageId model chunks=⟨[],some failure⟩:=by
          intro chunks hchunks
          unfold live
          rw [hrun chunks hchunks]
          rfl
        refine ⟨?_,?_,?_⟩
        · intro chunks hchunks
          rw [hlive chunks hchunks,hlive [input] (List.append_nil input)]
        · intro chunks hchunks bytes
          rw [hlive chunks hchunks]
          exact iff_of_false (translate_error hpush bytes) nofun
        · intro chunks hchunks
          rw [hlive chunks hchunks,hlive _ (Pipe.flatten_singles input)]

theorem readAll_line (env:StreamEnv) (bytes:List UInt8) : ∀ d:SseDecoder,
  d.skipLf=false → (∀ byte∈bytes,byte≠10 ∧ byte≠13) →
   d.frame.length+bytes.length ≤ maxSseFrameBytes →
    (pipe env).readAll d bytes=.ok ([],{ d with frame := d.frame++bytes }):=by
 induction bytes with
 | nil=>
  intro d _ _ _
  rw [List.append_nil]
  rfl
 | cons byte bytes ih=>
  intro d hskip hplain hlength
  obtain ⟨hlf,hcr⟩:=hplain byte List.mem_cons_self
  rw [List.length_cons] at hlength
  have hread:(pipe env).read d byte=.ok ([],{ d with frame:=d.frame++[byte] }):=by
   obtain ⟨frame,lineStart,skipLf⟩:=d
   obtain rfl : skipLf=false:=hskip
   change SseDecoder.read env ⟨frame,lineStart,false⟩ byte=_
   unfold SseDecoder.read SseDecoder.pushByte
   dsimp only at hlength ⊢
   rw [Bool.false_and,if_neg Bool.false_ne_true,if_neg hlf,if_neg hcr,if_neg (by omega)]
  have hrest:=ih { d with frame := d.frame++[byte] } hskip
   (fun other hmem=>hplain other (List.mem_cons_of_mem _ hmem)) (by
    change (d.frame++[byte]).length+_ ≤ _
    rw [List.length_append,List.length_singleton]
    omega)
  rw [Pipe.readAll,hread]
  dsimp only
  rw [hrest]
  dsimp only
  rw [List.append_assoc]
  rfl

theorem readAll_frame (env:StreamEnv) {line:List UInt8} {event:SseEvent}
  (hplain:∀ byte∈line,byte≠10 ∧ byte≠13) (hne:line.length≠0)
  (hshort:line.length < maxSseFrameBytes) (hframe:parseFrame env (line++[10])=.ok event) :
  (pipe env).readAll .new (line++[10,10])=.ok ([event],.new):=by
 have hline:=readAll_line env line .new rfl hplain (by
  change 0+_ ≤ _
  omega)
 have hfirst:(pipe env).read ⟨line,0,false⟩ 10 =
   .ok ([],⟨line++[10],(line++[10]).length,false⟩):=by
  change SseDecoder.endLine env ⟨line,0,false⟩=_
  unfold SseDecoder.endLine SseDecoder.pushByte
  dsimp only
  rw [if_neg hne,if_neg (Nat.not_le.mpr hshort)]
 have hsecond:(pipe env).read ⟨line++[10],(line++[10]).length,false⟩ 10 =
   .ok ([event],.new):=by
  have hkept:(line++[10]).isEmpty=false:=by
   cases line <;> rfl
  change SseDecoder.endLine env ⟨line++[10],(line++[10]).length,false⟩=_
  unfold SseDecoder.endLine
  dsimp only
  rw [if_pos rfl,hkept,if_neg Bool.false_ne_true,hframe]
  rfl
 have hends:(pipe env).readAll ⟨line,0,false⟩ [10,10]=.ok ([event],.new):=by
  rw [Pipe.readAll,hfirst]
  dsimp only
  rw [Pipe.readAll,hsecond]
  rfl
 have hkept:({ SseDecoder.new with frame:=SseDecoder.new.frame++line } : SseDecoder) =
   ⟨line,0,false⟩ := rfl
 rw [Pipe.readAll_append,hline]
 dsimp only
 rw [hkept,hends]
 rfl

def helloText : XmlElements.Text :=
 "\x7b\"type\":\"response.output_text.delta\",\"delta\":\"hi\"\x7d".toList

def hello : JsonValue :=
 .object [("delta",.string "hi"),("type",.string "response.output_text.delta")]

def sampleEnv : StreamEnv where
 readValue text := if text.toList=helloText then some hello else none
 fromUtf8 bytes := some (String.ofList (bytes.map fun byte=>Char.ofNat byte.toNat))
 writeValue value := String.ofList (StableJson.stableJson value)

def helloLine : List UInt8 := SseEvents.bytesOf ("data: ".toList++helloText)

/-- A character that is printed is written as the one byte with its code. -/
theorem ascii_line {text:List Char} (h:text.all (fun char=>32 ≤ char.toNat && char.toNat<128)=true) :
  (SseEvents.bytesOf text).map (fun byte:UInt8=>Char.ofNat byte.toNat)=text ∧
   (∀ byte∈SseEvents.bytesOf text,byte≠10 ∧ byte≠13) ∧ (SseEvents.bytesOf text).length=text.length:=by
 induction text with
 | nil=>exact ⟨rfl,fun _ hmem=>absurd hmem List.not_mem_nil,rfl⟩
 | cons char text ih=>
  rw [List.all_cons,Bool.and_eq_true,Bool.and_eq_true,decide_eq_true_eq,decide_eq_true_eq] at h
  obtain ⟨⟨hprinted,hascii⟩,hrest⟩:=h
  obtain ⟨hchars,hplain,hlength⟩:=ih hrest
  have hbytes:SseEvents.bytesOf (char::text)=UInt8.ofNat char.toNat::SseEvents.bytesOf text:=by
   have hchar:String.utf8EncodeChar char=[UInt8.ofNat char.toNat]:=by
    unfold String.utf8EncodeChar
    exact if_pos (Nat.le_of_lt_succ hascii)
   exact congrArg (· ++ SseEvents.bytesOf text) hchar
  have hcode:(UInt8.ofNat char.toNat).toNat=char.toNat:=by
   rw [UInt8.toNat_ofNat']
   omega
  have hne:∀ byte:UInt8,byte.toNat<32 → UInt8.ofNat char.toNat≠byte:=by
   rintro byte hbyte rfl
   omega
  rw [hbytes]
  refine ⟨?_,List.forall_mem_cons.mpr ⟨⟨hne 10 (by decide),hne 13 (by decide)⟩,hplain⟩,?_⟩
  · rw [List.map_cons,hcode,Char.ofNat_toNat,hchars]
  · rw [List.length_cons,List.length_cons,hlength]

theorem readLine_data (s:FrameState) (text:List Char) :
  s.readLine ("data: ".toList++text)={ s with data := s.data++[text] }:=by
 have hline : "data: ".toList=_:=String.toList_ofList
 have hevent : "event".toList=_:=String.toList_ofList
 have hdata : "data".toList=_:=String.toList_ofList
 unfold FrameState.readLine
 rw [hline,hevent,hdata]
 rfl

theorem hello_printed : ("data: ".toList++helloText).all (fun char=>32 ≤ char.toNat && char.toNat<128)=true ∧
  (0<("data: ".toList++helloText).length ∧ ("data: ".toList++helloText).length<100) ∧
   linesOf ("data: ".toList++helloText++['\n'])=["data: ".toList++helloText]:=by
 have hchars:helloText=_:=String.toList_ofList
 have hdata : "data: ".toList=_:=String.toList_ofList
 rw [hchars,hdata]
 decide +kernel

theorem hello_chars : (helloLine++[10]).map (fun byte:UInt8=>Char.ofNat byte.toNat) =
  "data: ".toList++helloText++['\n'] ∧
   (∀ byte∈helloLine,byte≠10 ∧ byte≠13) ∧ 0<helloLine.length ∧ helloLine.length<100:=by
 obtain ⟨hchars,hplain,hlength⟩:=ascii_line hello_printed.1
 unfold helloLine
 rw [hlength]
 refine ⟨?_,hplain,hello_printed.2.1⟩
 rw [List.map_append,hchars]
 rfl

theorem hello_frame : parseFrame sampleEnv (helloLine++[10]) = .ok ⟨none,String.ofList helloText⟩:=by
 unfold parseFrame sampleEnv
 dsimp only
 rw [hello_chars.1,String.toList_ofList,hello_printed.2.2,List.foldl_cons,readLine_data]
 simp [List.intercalate]

theorem hello_read : (pipe sampleEnv).readAll .new (helloLine++[10,10]) = .ok ([⟨none,String.ofList helloText⟩],.new) :=
 readAll_frame sampleEnv hello_chars.2.1 hello_chars.2.2.1.ne'
  (hello_chars.2.2.2.trans (by decide)) hello_frame

/-- A text is shown, then a comment frame fails in the decoder. -/
theorem shared_chunk_loses_text :
    ¬ ∀ (env:StreamEnv) (messageId model:String) (input:List UInt8),ChunkingIrrelevant env messageId model input:=by
  intro h
  have hcuts:=(h sampleEnv "m" "grok" ((helloLine++[10,10])++[58,10,10])).cuts
    [helloLine++[10,10],[58,10,10]] (by rw [List.flatten_cons]; rfl)
  have hvalue:sampleEnv.readValue (String.ofList helloText)=some hello:=by
    unfold sampleEnv
    dsimp only
    rw [if_pos String.toList_ofList]
  have hshown:∃ out handler,(pipe sampleEnv).push (newTranslator "m" "grok")
      (helloLine++[10,10])=.ok (.messageStart "m" "grok" :: out,⟨1,.new,handler⟩):=by
    have hread:(pipe sampleEnv).readAll (newTranslator "m" "grok").decoder
      (helloLine++[10,10])=.ok ([⟨none,String.ofList helloText⟩],.new) := hello_read
    have hhandle:∃ out handler,(pipe sampleEnv).handle (newTranslator "m" "grok").handler
        ⟨none,String.ofList helloText⟩=.ok (.messageStart "m" "grok" :: out,handler):=by
      have hpipe:(pipe sampleEnv).handle=handle sampleEnv:=rfl
      rw [hpipe]
      unfold handle
      dsimp only
      rw [hvalue]
      exact ⟨_,_,rfl⟩
    obtain ⟨out,handler,hhandle⟩:=hhandle
    refine ⟨out,handler,?_⟩
    unfold Pipe.push
    rw [hread]
    dsimp only
    rw [Pipe.handleAll,hhandle]
    dsimp only
    rw [Pipe.handleAll]
    dsimp only
    rw [List.append_nil]
    rfl
  have hcomment:(pipe sampleEnv).readAll .new [58,10,10] =
      .error (0,.failure "Grok SSE frame lacks data"):=by
    have hframe:parseFrame sampleEnv [58,10]=.error (.failure "Grok SSE frame lacks data"):=by
      unfold parseFrame sampleEnv
      dsimp only
      rw [String.toList_ofList]
      rfl
    have hfirst:(pipe sampleEnv).read .new 58=.ok ([],⟨[58],0,false⟩):=rfl
    have hsecond:(pipe sampleEnv).read ⟨[58],0,false⟩ 10=.ok ([],⟨[58,10],2,false⟩):=rfl
    have hthird:(pipe sampleEnv).read ⟨[58,10],2,false⟩ 10 =
        .error (.failure "Grok SSE frame lacks data"):=by
      change SseDecoder.endLine sampleEnv ⟨[58,10],2,false⟩=_
      unfold SseDecoder.endLine
      dsimp only
      rw [if_pos (by decide),hframe]
      rfl
    rw [Pipe.readAll,hfirst]
    dsimp only
    rw [Pipe.readAll,hsecond]
    dsimp only
    rw [Pipe.readAll,hthird]
    rfl
  obtain ⟨out,handler,hshown⟩:=hshown
  have hcomment:(pipe sampleEnv).push ⟨1,.new,handler⟩ [58,10,10] =
      .error (1+0,.failure "Grok SSE frame lacks data") :=
    (pipe sampleEnv).push_read_error hcomment
  have hwhole:(pipe sampleEnv).push (newTranslator "m" "grok")
      ((helloLine++[10,10])++[58,10,10]) =
        .error (1+0,.failure "Grok SSE frame lacks data"):=by
    rw [Pipe.push_append,hshown]
    dsimp only
    rw [hcomment]
  rw [live_single_error hwhole] at hcuts
  unfold live at hcuts
  rw [Pipe.run,hshown] at hcuts
  have hbytes:=encoded_nil (congrArg Delivered.bytes hcuts)
  cases hbytes

end CursorProxy.GrokChunking
