import CursorProxy.GrokChunking

namespace CursorProxy.GrokFrames
open ChunkedPipes GrokReducer XmlElements SseEvents
open GrokStream (StreamEnv SseDecoder FrameState maxSseFrameBytes parseFrame pipe splitField)
open GrokChunking (readAll_line sampleEnv)

inductive LineEnd where
 | lf
 | cr
 | crlf
deriving DecidableEq

def LineEnd.text : LineEnd → Text
 | .lf=>['\n']
 | .cr=>['\r']
 | .crlf=>['\r','\n']

structure Line where
 text : Text
 ending : LineEnd
 plain : ∀ char∈text,char ≠ '\n' ∧ char ≠ '\r'

def Line.blank (line:Line) : Bool := line.text.isEmpty

def stream (lines:List Line) : Text := lines.flatMap fun line=>line.text++line.ending.text

/-- No `\r` and `\n` of two lines stand together, and a blank line is the last. -/
structure Complete (lines:List Line) : Prop where
 apart : lines.IsChain fun line next=>
  line.ending=.cr → ¬ (next.blank=true ∧ next.ending=.lf)
 closed : ∀ last∈lines.getLast?, last.blank=true

/-- A blank line ends the frame of the lines before it. -/
def framesFrom : List Text → List Line → List (List Text)
 | _,[]=>[]
 | before,line::lines=>
  if line.blank then before::framesFrom [] lines
  else framesFrom (before++[line.text]) lines

/-- What stands before the first colon, and behind it without one leading space. -/
def fieldOf (line:Text) : Text×Text :=
 let value:=(line.dropWhile (· != ':')).tail
 (line.takeWhile (· != ':'),if value.head?=some ' ' then value.tail else value)

def values (name:String) (frame:List Text) : List Text :=
 ((frame.map fieldOf).filter fun field=>field.1=name.toList).map Prod.snd

def dispatch (frame:List Text) : Option GrokStream.SseEvent :=
 if values "data" frame=[] then none
 else some ⟨(values "event" frame).getLast?.map String.ofList,String.ofList (joinLines (values "data" frame))⟩

def written (frame:List Text) : Text := frame.flatMap fun line=>line++['\n']

/-- A frame counts its line ends as one byte each. -/
def Short (frame:List Text) : Prop := (bytesOf (written frame)).length ≤ maxSseFrameBytes

def Decodes (env:StreamEnv) (d:SseDecoder) (before:List Text) (lines:List Line) : Prop :=
 ∃ after,(pipe env).readAll d (bytesOf (stream lines)) =
  .ok ((framesFrom before lines).filterMap dispatch,after)

variable {env:StreamEnv} {line:Line} {lines:List Line} {before:List Text} {d:SseDecoder}

theorem splitField_eq (line:Text) : splitField line=fieldOf line:=by
 unfold splitField fieldOf
 rw [List.span_eq_takeWhile_dropWhile]
 generalize hrest : line.dropWhile (fun char=>char != ':')=rest
 have hcolon:∀ char∈rest.head?, char = ':' := by
  intro char hchar
  have hnot:=List.head?_dropWhile_not (fun char=>char != ':') line
  rw [hrest,Option.mem_def.mp hchar] at hnot
  simpa using hnot
 rcases rest with - | ⟨char,- | ⟨next,rest⟩⟩
 · rfl
 · obtain rfl:=hcolon char rfl
   rfl
 · obtain rfl:=hcolon char rfl
   by_cases hspace:next = ' '
   · subst hspace; rfl
   · simp [hspace]

theorem foldl_readLine (frame:List Text) : ∀ s:FrameState,
  frame.foldl FrameState.readLine s = ⟨(values "event" frame).getLast?.or s.event,s.data++values "data" frame⟩:=by
 induction frame with
 | nil=>intro s; simp [values]
 | cons line frame ih=>
  intro s
  have hname:line.head?=some ':' → (fieldOf line).1=[]:=by
   intro hhead
   obtain ⟨rest,rfl⟩:=List.head?_eq_some_iff.mp hhead
   rfl
  have hvalues:∀ name:String,values name (line::frame) =
    (if (fieldOf line).1=name.toList then [(fieldOf line).2] else []) ++
     values name frame:=by
   intro name
   unfold values
   rw [List.map_cons,List.filter_cons]
   split_ifs <;> simp_all
  have hevent : "event".toList=['e','v','e','n','t']:=by decide
  have hdata : "data".toList=['d','a','t','a']:=by decide
  rw [List.foldl_cons,ih,hvalues,hvalues]
  unfold FrameState.readLine
  rw [splitField_eq]
  split_ifs <;> simp_all [List.getLast?_cons]

theorem parseFrame_written (hutf8:∀ text,env.fromUtf8 (bytesOf text)=some (String.ofList text))
  (hplain:∀ line∈before, '\n' ∉ line) : parseFrame env (bytesOf (written before)) = match dispatch before with
   | none=>.error (.failure "Grok SSE frame lacks data")
   | some event=>.ok event:=by
 have hlines:GrokStream.linesOf (written before)=before:=by
  have hjoin:∀ frame,written frame=['\n'].intercalate (frame++[[]]):=by
   intro frame
   induction frame with
   | nil=>rfl
   | cons line frame ih=>
    rw [List.cons_append,List.intercalate_cons_of_ne_nil (by simp),← ih]
    simp [written]
  have hsplit:(written before).splitOn '\n' = before++[[]]:=by
   rw [hjoin,List.splitOn_intercalate]
   · simpa [or_imp,forall_and] using hplain
   · simp
  simp [GrokStream.linesOf,hsplit]
 unfold parseFrame dispatch
 rw [hutf8]
 simp only [String.toList_ofList,hlines,foldl_readLine]
 split_ifs <;> simp_all [joinLines]

/-- The decoder has read the lines of a frame, and no part of the next. -/
structure Reads (d:SseDecoder) (before:List Text) : Prop where
 frame : d.frame=bytesOf (written before)
 lineStart : d.lineStart=d.frame.length
 plain : ∀ line∈before,line≠[] ∧ '\n' ∉ line

theorem reads_new : Reads .new [] := ⟨rfl,rfl,nofun⟩

theorem readAll_skip {byte:UInt8} (bytes:List UInt8) (h:d.skipLf=true → byte≠10) :
  (pipe env).readAll d (byte::bytes) = (pipe env).readAll { d with skipLf := false } (byte::bytes):=by
 have hread:(pipe env).read d byte=(pipe env).read { d with skipLf:=false } byte:=by
  cases hskip:d.skipLf <;> simp_all [pipe,SseDecoder.read]
 rw [Pipe.readAll,Pipe.readAll,hread]

theorem readAll_ending (ending:LineEnd) (hskip:d.skipLf=false) :
  (pipe env).readAll d (bytesOf ending.text) = match d.endLine env with
   | .error error=>.error (0,error)
   | .ok (events,after)=>.ok (events,{ after with skipLf := ending=.cr }):=by
 obtain ⟨frame,lineStart,skipLf⟩:=d
 obtain rfl : skipLf=false:=hskip
 have hlf:bytesOf LineEnd.lf.text=[10]:=by decide
 have hcr:bytesOf LineEnd.cr.text=[13]:=by decide
 have hcrlf:bytesOf LineEnd.crlf.text=[13,10]:=by decide
 have hkept:∀ {events after},SseDecoder.endLine env ⟨frame,lineStart,false⟩ =
   .ok (events,after) → after.skipLf=false:=by
  intro events after h
  unfold SseDecoder.endLine SseDecoder.pushByte at h
  split_ifs at h <;> grind
 cases hend:SseDecoder.endLine env ⟨frame,lineStart,false⟩ with
 | error error=>cases ending <;> simp_all [Pipe.readAll,pipe,SseDecoder.read]
 | ok result=>
  obtain ⟨events,after⟩:=result
  have hafter : { after with skipLf:=false }=after := by rw [← hkept hend]
  cases ending <;> simp_all [Pipe.readAll,pipe,SseDecoder.read]

theorem plain_bytes (line:Line) : ∀ byte∈bytesOf line.text,byte≠10 ∧ byte≠13:=by
 intro byte hbyte
 obtain ⟨char,hchar,hmem⟩:=List.mem_flatMap.mp hbyte
 obtain ⟨hlf,hcr⟩:=line.plain char hchar
 constructor
 · rintro rfl
   exact hlf (Char.toNat_inj.mp (ascii_of_mem (by decide) hmem))
 · rintro rfl
   exact hcr (Char.toNat_inj.mp (ascii_of_mem (by decide) hmem))

theorem bytesOf_eq_nil {text:Text} : bytesOf text=[] ↔ text=[]:=by
 cases text with
 | nil=>exact iff_of_true rfl rfl
 | cons char text=>simp [bytesOf,String.utf8EncodeChar_ne_nil]

/-- The bytes of a line leave the line end to be read. -/
theorem readAll_text (hskip:d.skipLf=true → ¬ (line.blank=true ∧ line.ending=.lf))
  (hlength:d.frame.length+(bytesOf line.text).length ≤ maxSseFrameBytes) :
  (pipe env).readAll d (bytesOf (line.text++line.ending.text)) =
   match SseDecoder.endLine env ⟨d.frame++bytesOf line.text,d.lineStart,false⟩ with
   | .error error=>.error (0,error)
   | .ok (events,after)=>.ok (events,{ after with skipLf := line.ending=.cr }):=by
 have hfresh:(pipe env).readAll d (bytesOf (line.text++line.ending.text)) =
   (pipe env).readAll { d with skipLf := false } (bytesOf (line.text++line.ending.text)):=by
  rw [bytesOf_append]
  cases hbytes:bytesOf line.text with
  | nil=>
   have hblank:line.blank=true:=by
    rw [Line.blank,bytesOf_eq_nil.mp hbytes]
    rfl
   cases hending:line.ending with
   | lf=>exact readAll_skip [] fun h=>absurd ⟨hblank,hending⟩ (hskip h)
   | cr=>exact readAll_skip [] fun _=>by decide
   | crlf=>exact readAll_skip [10] fun _=>by decide
  | cons byte bytes=>
   exact readAll_skip _ fun _=>(plain_bytes line byte (by rw [hbytes]; simp)).1
 rw [hfresh,bytesOf_append,Pipe.readAll_append,
  readAll_line env _ { d with skipLf := false } rfl (plain_bytes line) hlength]
 dsimp only
 rw [readAll_ending _ rfl]
 cases SseDecoder.endLine env ⟨d.frame++bytesOf line.text,d.lineStart,false⟩ with
 | error error=>rfl
 | ok result=>rfl

theorem written_snoc (before:List Text) (text:Text) :
  bytesOf (written (before++[text])) = bytesOf (written before)++bytesOf text++[10]:=by
 rw [written,written,List.flatMap_append,bytesOf_append,List.append_assoc]
 simp only [List.flatMap_cons,List.flatMap_nil,List.append_nil,bytesOf_append]
 rfl

theorem read_text (hreads:Reads d before) (hskip:d.skipLf=true → ¬ (line.blank=true ∧ line.ending=.lf))
  (hblank:line.blank=false) (hshort:Short (before++[line.text])) :
  ∃ after,(pipe env).readAll d (bytesOf (line.text++line.ending.text))=.ok ([],after) ∧
   Reads after (before++[line.text]) ∧ (after.skipLf=true → line.ending=.cr):=by
 have hne:line.text≠[]:=by simpa [Line.blank] using hblank
 have hbytes:=List.length_pos_of_ne_nil (mt bytesOf_eq_nil.mp hne)
 have hframe:=hreads.frame
 unfold Short at hshort
 rw [written_snoc,List.length_append,List.length_append,List.length_singleton,← hframe]
  at hshort
 rw [readAll_text hskip (by omega)]
 have hstart:=hreads.lineStart
 unfold SseDecoder.endLine SseDecoder.pushByte
 rw [if_neg (by simp; omega),if_neg (by simp; omega)]
 refine ⟨_,rfl,⟨?_,rfl,?_⟩,by simp⟩
 · rw [written_snoc,← hframe]
 · have hnewline : '\n' ∉ line.text:=fun hmem=>(line.plain _ hmem).1 rfl
   simpa [or_imp,forall_and,hne,hnewline] using forall₂_and.mp hreads.plain

theorem read_blank (hutf8:∀ text,env.fromUtf8 (bytesOf text)=some (String.ofList text))
  (hreads:Reads d before) (hskip:d.skipLf=true → ¬ (line.blank=true ∧ line.ending=.lf))
  (hblank:line.blank=true) (hshort:Short before) :
  ∃ after,Reads after [] ∧ (after.skipLf=true → line.ending=.cr) ∧
   (pipe env).readAll d (bytesOf (line.text++line.ending.text)) = if before=[] then .ok ([],after)
    else match dispatch before with
     | none=>.error (0,.failure "Grok SSE frame lacks data")
     | some event=>.ok ([event],after):=by
 have htext:line.text=[]:=by simpa [Line.blank] using hblank
 have hframe:=hreads.frame
 unfold Short at hshort
 rw [readAll_text hskip (by rw [htext,hframe]; simpa [bytesOf] using hshort)]
 refine ⟨⟨[],0,line.ending=.cr⟩,⟨rfl,rfl,by simp⟩,by simp,?_⟩
 have hempty:d.frame.isEmpty=true ↔ before=[]:=by
  rw [List.isEmpty_iff,hframe,bytesOf_eq_nil]
  cases before <;> simp [written]
 have hparse:=parseFrame_written hutf8 fun line hline=>(hreads.plain line hline).2
 have hend:(⟨d.frame++bytesOf line.text,d.lineStart,false⟩ : SseDecoder) = ⟨d.frame,d.frame.length,false⟩:=by
  rw [htext,hreads.lineStart]
  exact congrArg (SseDecoder.mk · _ _) (List.append_nil _)
 rw [hend,SseDecoder.endLine,if_pos rfl]
 rw [← hframe] at hparse
 by_cases hnil:before=[]
 · rw [if_pos (hempty.mpr hnil),if_pos hnil]
 · rw [if_neg (mt hempty.mp hnil),if_neg hnil,hparse]
   cases dispatch before <;> rfl

/-- Where the last line is blank, the lines so far are of a frame. -/
theorem mem_framesFrom (h:∀ last∈lines.getLast?, last.blank=true) (hne:lines≠[]) :
  ∀ before,∃ frame∈framesFrom before lines,before <+: frame:=by
 induction lines with
 | nil=>exact absurd rfl hne
 | cons line lines ih=>
  intro before
  rw [framesFrom]
  split_ifs with hblank
  · exact ⟨before,List.mem_cons_self,List.prefix_rfl⟩
  · have hrest:lines≠[]:=by
     rintro rfl
     exact hblank (h line rfl)
    obtain ⟨frame,hmem,hfront⟩:=ih (by
     rwa [List.getLast?_cons_of_ne_nil hrest] at h) hrest (before++[line.text])
    exact ⟨frame,hmem,(List.prefix_append _ _).trans hfront⟩

theorem Short.of_front {frame:List Text} (h:Short frame) (hfront:before <+: frame) : Short before:=by
 obtain ⟨rest,rfl⟩:=hfront
 unfold Short written at *
 rw [List.flatMap_append,bytesOf_append,List.length_append] at h
 omega

theorem Complete.tail (h:Complete (line::lines)) : Complete lines where
 apart:=by
  cases lines with
  | nil=>exact .nil
  | cons next lines=>exact (List.isChain_cons_cons.mp h.apart).2
 closed last hlast:=by
  refine h.closed last ?_
  rw [List.getLast?_cons,Option.mem_def.mp hlast]
  rfl

theorem Complete.apart_head {next:Line} (h:Complete (line::lines))
  (hnext:next∈lines.head?) (hcr:line.ending=.cr) : ¬ (next.blank=true ∧ next.ending=.lf):=by
 obtain ⟨rest,rfl⟩:=List.head?_eq_some_iff.mp hnext
 exact (List.isChain_cons_cons.mp h.apart).1 hcr

theorem readAll_then {first second:List UInt8} {events out:List GrokStream.SseEvent}
  {after:SseDecoder} (h:(pipe env).readAll d first=.ok (events,after)) :
  (∃ last,(pipe env).readAll d (first++second)=.ok (events++out,last)) ↔
   ∃ last,(pipe env).readAll after second=.ok (out,last):=by
 rw [Pipe.readAll_append,h]
 dsimp only
 cases (pipe env).readAll after second with
 | error failure=>simp
 | ok result=>
  obtain ⟨more,last⟩:=result
  simp

theorem decodes_from (hutf8:∀ text,env.fromUtf8 (bytesOf text)=some (String.ofList text)) :
  ∀ {d before},Reads d before → Complete lines →
   (∀ line∈lines.head?, d.skipLf=true → ¬ (line.blank=true ∧ line.ending=.lf)) →
   (∀ frame∈framesFrom before lines,Short frame) →
    (Decodes env d before lines ↔ ∀ frame∈framesFrom before lines,frame≠[] → values "data" frame≠[]):=by
 induction lines with
 | nil=>
  intro d before _ _ _ _
  exact iff_of_true ⟨d,rfl⟩ (by simp [framesFrom])
 | cons line lines ih=>
  intro d before hreads hcomplete hskip hshort
  have hafter:∀ after:SseDecoder,(after.skipLf=true → line.ending=.cr) →
    ∀ next∈lines.head?, after.skipLf=true → ¬ (next.blank=true ∧ next.ending=.lf) :=
   fun after hcr next hhead hskip=>hcomplete.apart_head hhead (hcr hskip)
  have hstream:bytesOf (stream (line::lines)) =
    bytesOf (line.text++line.ending.text)++bytesOf (stream lines) := bytesOf_append ..
  unfold Decodes at ih ⊢
  rw [hstream]
  cases hblank:line.blank with
  | false=>
   rw [framesFrom,hblank,if_neg Bool.false_ne_true] at hshort ⊢
   have hne:lines≠[]:=by
    rintro rfl
    exact Bool.false_ne_true (hblank.symm.trans (hcomplete.closed line rfl))
   obtain ⟨frame,hmem,hfront⟩:=mem_framesFrom hcomplete.tail.closed hne _
   obtain ⟨after,hread,hreads',hcr⟩:=@read_text env line before d hreads (hskip line rfl) hblank
    ((hshort frame hmem).of_front hfront)
   rw [← ih hreads' hcomplete.tail (hafter after hcr) hshort]
   exact readAll_then hread
  | true=>
   rw [framesFrom,hblank,if_pos rfl] at hshort ⊢
   obtain ⟨after,hreads',hcr,hread⟩:=read_blank hutf8 hreads (hskip line rfl) hblank
    (hshort before List.mem_cons_self)
   have hrest:=ih hreads' hcomplete.tail (hafter after hcr) fun frame hmem=>
    hshort frame (List.mem_cons_of_mem _ hmem)
   rw [List.forall_mem_cons,← hrest]
   by_cases hnil:before=[]
   · rw [if_pos hnil] at hread
     rw [hnil,List.filterMap_cons_none (by rfl)]
     exact (readAll_then hread).trans (iff_and_self.mpr fun _ h=>absurd rfl h)
   · rw [if_neg hnil] at hread
     cases hdispatch:dispatch before with
     | none=>
      have hdata:values "data" before=[]:=by
       by_contra hdata
       simp [dispatch,hdata] at hdispatch
      rw [hdispatch] at hread
      refine iff_of_false ?_ fun h=>h.1 hnil hdata
      rintro ⟨last,h⟩
      rw [Pipe.readAll_append,hread] at h
      cases h
     | some event=>
      have hdata:values "data" before≠[]:=by
       intro hdata
       simp [dispatch,hdata] at hdispatch
      rw [hdispatch] at hread
      rw [List.filterMap_cons_some hdispatch]
      exact (readAll_then hread).trans (iff_and_self.mpr fun _ _=>hdata)

theorem decodes_iff (hutf8:∀ text,env.fromUtf8 (bytesOf text)=some (String.ofList text))
    (hcomplete:Complete lines) (hshort:∀ frame∈framesFrom [] lines,Short frame) :
    Decodes env .new [] lines ↔ ∀ frame∈framesFrom [] lines,frame≠[] → values "data" frame≠[] :=
  decodes_from hutf8 reads_new hcomplete (fun _ _ h=>absurd h (by decide)) hshort

def utf8Env : StreamEnv where
 readValue _ := none
 fromUtf8 bytes := String.fromUTF8? bytes.toByteArray
 writeValue _ := ""

theorem utf8Env_reads (text:Text) : utf8Env.fromUtf8 (bytesOf text)=some (String.ofList text):=by
 have hvalid:(bytesOf text).toByteArray.IsValidUTF8 :=
  (String.ofList text).isValidUTF8
 exact dif_pos hvalid

def keepAlive : List Line := [⟨[':'],.lf,by simp⟩,⟨[],.lf,nofun⟩]

def greeting : List Line :=
 [⟨['d','a','t','a',':',' ','x'],.crlf,by simp⟩,⟨[],.cr,nofun⟩]

theorem sample_short : (∀ frame∈framesFrom [] keepAlive,Short frame) ∧ ∀ frame∈framesFrom [] greeting,Short frame:=by
 have hkeep:framesFrom [] keepAlive=[[[':']]]:=rfl
 have hgreet:framesFrom [] greeting=[[['d','a','t','a',':',' ','x']]]:=rfl
 simp only [hkeep,hgreet,List.forall_mem_singleton,Short,maxSseFrameBytes]
 exact ⟨by decide,by decide⟩

theorem decodes_iff_sample : Decodes utf8Env .new [] greeting :=
  (decodes_iff utf8Env_reads ⟨by simp [greeting],by decide⟩ sample_short.2).mpr (by decide)

theorem keepAlive_fails :
    Complete keepAlive ∧ (∀ frame∈framesFrom [] keepAlive,Short frame) ∧ ¬ Decodes utf8Env .new [] keepAlive:=by
  have hcomplete:Complete keepAlive:=⟨by simp [keepAlive],by decide⟩
  refine ⟨hcomplete,sample_short.1,fun h=>?_⟩
  have hdata:=(decodes_from utf8Env_reads reads_new hcomplete (fun _ _ h=>absurd h (by decide)) sample_short.1).mp h
  exact absurd hdata (by decide)

end CursorProxy.GrokFrames
