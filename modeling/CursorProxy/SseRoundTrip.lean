import CursorProxy.SseEvents

/-! The parser takes every space off the front of a value, the writer puts one there. -/
namespace CursorProxy.SseRoundTrip
open XmlElements SseEvents

/-- `String::from_utf8_lossy`; how bytes that are not UTF-8 are replaced is a parameter. -/
def fromUtf8Lossy (replaced:List UInt8 → Text) (input:List UInt8) : Text :=
 ((input.toByteArray.utf8Decode?).map Array.toList).getD (replaced input)

def parseSseEvents (replaced:List UInt8 → Text) (input:List UInt8) : List SseEvent :=
 parseSseText (fromUtf8Lossy replaced input)

def eventLine (event:Text) : Text := "event: ".toList++event
def dataLine (line:Text) : Text := "data: ".toList++line

def eventText (event:Option Text) (data:Text) : Text :=
 (match event with
  | some event=>eventLine event++['\n']
  | none=>[])++(data.splitOn '\n').flatMap (fun line=>dataLine line++['\n'])++['\n']

def encodeSseEvent (event:Option Text) (data:Text) : List UInt8 :=
 bytesOf (eventText event data)

def encodeAll (events:List SseEvent) : List UInt8 :=
 events.flatMap fun event=>encodeSseEvent event.event event.data

def trimSpaces (value:Text) : Text := value.dropWhile fun char=>char = ' '

def trimmed (event:SseEvent) : SseEvent :=
 ⟨event.event.map trimSpaces,joinLines ((event.data.splitOn '\n').map trimSpaces)⟩

/-- A name is one line, and no part has a carriage return. -/
structure Writable (event:SseEvent) : Prop where
 name : ∀ name∈event.event, '\n' ∉ name ∧ '\r' ∉ name
 data : '\r' ∉ event.data

def linesOf (event:SseEvent) : List Text :=
 event.event.toList.map eventLine++(event.data.splitOn '\n').map dataLine

theorem words : "event".toList=['e','v','e','n','t'] ∧ "data".toList=['d','a','t','a']:=by
 simp -index only [String.toList_ofList]
 trivial

theorem eventLine_eq (name:Text) : eventLine name=['e','v','e','n','t',':',' ']++name:=by
 unfold eventLine
 simp -index only [String.toList_ofList]

theorem dataLine_eq (line:Text) : dataLine line=['d','a','t','a',':',' ']++line:=by
 unfold dataLine
 simp -index only [String.toList_ofList]

theorem fromUtf8Lossy_bytesOf (replaced:List UInt8 → Text) (text:Text) :
  fromUtf8Lossy replaced (bytesOf text)=text:=by
 have hdecoded:(bytesOf text).toByteArray.utf8Decode?=some text.toArray :=
  List.utf8Decode?_utf8Encode
 unfold fromUtf8Lossy
 rw [hdecoded]
 rfl

theorem linesOf_ne_nil (event:SseEvent) : linesOf event≠[]:=by
 intro hnil
 have hdata:=(List.append_eq_nil_iff.mp hnil).2
 exact List.splitOn_ne_nil '\n' event.data (List.map_eq_nil_iff.mp hdata)

theorem flatMap_newline (lines:List Text) (hlines:lines≠[]) :
  lines.flatMap (fun line=>line++['\n'])=joinLines lines++['\n']:=by
 unfold joinLines
 induction lines with
 | nil=>exact absurd rfl hlines
 | cons line lines ih=>
  cases lines with
  | nil=>simp
  | cons next lines=>
   rw [List.flatMap_cons,ih (List.cons_ne_nil _ _),List.intercalate_cons_cons]
   simp

theorem eventText_eq (event:SseEvent) : eventText event.event event.data=joinLines (linesOf event)++['\n','\n']:=by
 have hlines:eventText event.event event.data = (linesOf event).flatMap (fun line=>line++['\n'])++['\n']:=by
  unfold eventText linesOf
  rw [List.flatMap_append,List.flatMap_map,List.flatMap_map]
  cases event.event with
  | none=>rfl
  | some name=>simp
 rw [hlines,flatMap_newline _ (linesOf_ne_nil event),List.append_assoc]
 rfl

section reading
variable {event:SseEvent}

theorem of_mem_splitOn {char:Char} {data:Text} : ∀ {line:Text},
  line∈data.splitOn '\n' → char∈line → char∈data ∧ char ≠ '\n' := by
 induction data with
 | nil=>
  intro line hline hchar
  obtain rfl:=List.mem_singleton.mp hline
  exact (nomatch hchar)
 | cons first data ih=>
  intro line hline hchar
  rw [List.splitOn_cons_eq_if_modifyHead] at hline
  split_ifs at hline with hnewline
  · rcases List.mem_cons.mp hline with rfl | hline
    · exact (nomatch hchar)
    · exact (ih hline hchar).imp_left (List.mem_cons_of_mem _)
  · cases hlines:data.splitOn '\n' with
    | nil=>exact absurd hlines (List.splitOn_ne_nil _ _)
    | cons head tail=>
     rw [hlines] at hline ih
     rcases List.mem_cons.mp hline with rfl | hline
     · rcases List.mem_cons.mp hchar with rfl | hchar
       · exact ⟨List.mem_cons_self,fun heq=>hnewline (by rw [heq]; rfl)⟩
       · exact (ih List.mem_cons_self hchar).imp_left (List.mem_cons_of_mem _)
     · exact (ih (List.mem_cons_of_mem _ hline) hchar).imp_left (List.mem_cons_of_mem _)

theorem normalizeLines_eq {text:Text} (h : '\r' ∉ text) : normalizeLines text=text:=by
 induction text with
 | nil=>rfl
 | cons char text ih=>
  rw [List.mem_cons,not_or] at h
  rw [normalizeLines_cons _ _ (Ne.symm h.1),ih h.2]

theorem readLine_event (s:BlockState) (name:Text) :
  s.readLine (eventLine name)={ s.pushIfRelevant with event := some (trimSpaces name) }:=by
 unfold BlockState.readLine trimSpaces
 rw [words.1,eventLine_eq]
 generalize s.pushIfRelevant=t
 simp

theorem readLine_data (s:BlockState) (line:Text) :
  s.readLine (dataLine line)={ s with dataLines := s.dataLines++[trimSpaces line] }:=by
 unfold BlockState.readLine trimSpaces
 rw [words.1,words.2,dataLine_eq]
 simp

theorem foldl_readLine_data (lines:List Text) (s:BlockState) :
  (lines.map dataLine).foldl BlockState.readLine s = { s with dataLines := s.dataLines++lines.map trimSpaces }:=by
 induction lines generalizing s with
 | nil=>simp
 | cons line lines ih=>
  rw [List.map_cons,List.foldl_cons,readLine_data,ih]
  simp

theorem parseLines (event:SseEvent) :
  ((linesOf event).foldl BlockState.readLine ⟨none,[],[]⟩).pushIfRelevant.events = [trimmed event]:=by
 have hlines:((event.data.splitOn '\n').map trimSpaces).isEmpty=false:=by
  cases hsplit:event.data.splitOn '\n' with
  | nil=>exact absurd hsplit (List.splitOn_ne_nil _ _)
  | cons line lines=>rfl
 have hdata:∀ name:Option Text,(((event.data.splitOn '\n').map dataLine).foldl
   BlockState.readLine ⟨name,[],[]⟩).pushIfRelevant.events =
    [⟨name,joinLines ((event.data.splitOn '\n').map trimSpaces)⟩]:=by
  intro name
  rw [foldl_readLine_data]
  unfold BlockState.pushIfRelevant
  dsimp only
  rw [List.nil_append,hlines]
  rfl
 unfold linesOf trimmed
 rw [List.foldl_append]
 cases event.event with
 | none=>exact hdata none
 | some name=>
  rw [Option.toList_some,List.map_singleton,List.foldl_cons,List.foldl_nil,readLine_event]
  exact hdata (some (trimSpaces name))

theorem of_mem_linesOf (h:Writable event) {line:Text} (hline:line∈linesOf event) :
  line≠[] ∧ '\n' ∉ line ∧ '\r' ∉ line:=by
 rcases List.mem_append.mp hline with hmem | hmem
 · obtain ⟨name,hname,rfl⟩:=List.mem_map.mp hmem
   obtain ⟨hnewline,hreturn⟩:=h.name name (Option.mem_toList.mp hname)
   rw [eventLine_eq]
   exact ⟨List.cons_ne_nil _ _,by simp [hnewline],by simp [hreturn]⟩
 · obtain ⟨part,hpart,rfl⟩:=List.mem_map.mp hmem
   have hnewline : '\n' ∉ part:=fun hchar=>(of_mem_splitOn hpart hchar).2 rfl
   have hreturn : '\r' ∉ part:=fun hchar=>h.data (of_mem_splitOn hpart hchar).1
   rw [dataLine_eq]
   exact ⟨List.cons_ne_nil _ _,by simp [hnewline],by simp [hreturn]⟩

theorem notMem_joinLines {char:Char} (hchar:char ≠ '\n') {lines:List Text}
  (h:∀ line∈lines,char ∉ line) : char ∉ joinLines lines:=by
 unfold joinLines
 induction lines with
 | nil=>exact nofun
 | cons line lines ih=>
  have hrest:=ih fun other hmem=>h other (List.mem_cons_of_mem _ hmem)
  cases lines with
  | nil=>
   rw [List.intercalate_singleton]
   exact h line List.mem_cons_self
  | cons next lines=>
   rw [List.intercalate_cons_cons]
   simp only [List.mem_append,List.mem_singleton,not_or]
   exact ⟨⟨h line List.mem_cons_self,hchar⟩,hrest⟩

theorem parseSegments_lines (lines:List Text) (hlines:∀ line∈lines,line≠[]) :
  ∀ (block:Text) (rest:List Text),block≠[] → parseSegments block (lines++rest) =
   parseSegments (joinLines (block::lines)) rest:=by
 unfold joinLines
 induction lines with
 | nil=>
  intro block rest _
  rw [List.intercalate_singleton]
  rfl
 | cons line lines ih=>
  intro block rest hblock
  have hline:=hlines line List.mem_cons_self
  rw [List.cons_append,parseSegments_cons,if_neg (by simpa using hline),
   if_neg (by simpa using hblock),
   ih (fun other hmem=>hlines other (List.mem_cons_of_mem _ hmem)) _ _ (by simp [hblock])]
  congr 1
  cases lines with
  | nil=>simp [List.intercalate_cons_cons]
  | cons next lines=>simp [List.intercalate_cons_cons]

theorem parseSegments_linesOf (h:Writable event) :
  parseSegments [] (linesOf event++[[],[]])=parseBlock (joinLines (linesOf event)):=by
 cases hlines:linesOf event with
 | nil=>exact absurd hlines (linesOf_ne_nil event)
 | cons line lines=>
  have hnonempty:∀ other∈line::lines,other≠[]:=fun other hmem=>
   (of_mem_linesOf h (hlines ▸ hmem)).1
  have hline:=hnonempty line List.mem_cons_self
  rw [List.cons_append,parseSegments_cons,if_neg (by simpa using hline)]
  rw [parseSegments_lines lines (fun other hmem=>hnonempty other (List.mem_cons_of_mem _ hmem)) _ _
   (by simpa using hline)]
  exact List.append_nil _

theorem parseSseText_eventText (h:Writable event) :
  parseSseText (eventText event.event event.data)=[trimmed event]:=by
 have hreturn : '\r' ∉ joinLines (linesOf event) :=
  notMem_joinLines (by decide) fun line hline=>(of_mem_linesOf h hline).2.2
 have hsplit:(joinLines (linesOf event)).splitOn '\n' = linesOf event :=
  List.splitOn_intercalate '\n' (fun line hline=>(of_mem_linesOf h hline).2.1)
   (linesOf_ne_nil event)
 have hsegments:(joinLines (linesOf event)++['\n','\n']).splitOn '\n' = linesOf event++[[],[]]:=by
  rw [List.splitOn_append_cons_self,hsplit]
  rfl
 rw [eventText_eq]
 unfold parseSseText
 rw [normalizeLines_eq (by simp [hreturn]),hsegments,parseSegments_linesOf h]
 unfold parseBlock
 rw [hsplit]
 exact parseLines event

end reading

theorem encodeAll_eq (events:List SseEvent) :
  encodeAll events=bytesOf (events.flatMap fun event=>eventText event.event event.data):=by
 unfold encodeAll encodeSseEvent bytesOf
 rw [List.flatMap_assoc]

theorem parse_encodeAll (replaced:List UInt8 → Text) {events:List SseEvent} (h:∀ event∈events,Writable event) :
  parseSseEvents replaced (encodeAll events)=events.map trimmed:=by
 unfold parseSseEvents
 rw [encodeAll_eq,fromUtf8Lossy_bytesOf]
 induction events with
 | nil=>rfl
 | cons event events ih=>
  have hone:=parseSseText_eventText (h event List.mem_cons_self)
  have hrest:=ih fun other hmem=>h other (List.mem_cons_of_mem _ hmem)
  rw [eventText_eq] at hone
  rw [List.flatMap_cons,eventText_eq,List.append_assoc]
  change parseSseText (joinLines (linesOf event) ++ '\n' :: '\n' :: _)=_
  rw [parseSseText_append,hone]
  exact congrArg (trimmed event :: ·) hrest

/-- Neither the name nor a line of the data begins with a space. -/
def Unindented (event:SseEvent) : Prop :=
 (∀ name∈event.event,name.head? ≠ some ' ') ∧ ∀ line∈event.data.splitOn '\n', line.head? ≠ some ' '

theorem trimSpaces_eq_self {value:Text} : trimSpaces value=value ↔ value.head? ≠ some ' ' := by
 unfold trimSpaces
 cases value with
 | nil=>simp
 | cons char rest=>
  constructor
  · intro htrim hspace
    rw [List.dropWhile_cons_of_pos (by simpa using hspace)] at htrim
    have hsuffix:rest.dropWhile (fun char=>decide (char = ' ')) <:+ rest :=
     List.dropWhile_suffix _
    have hlength:=hsuffix.length_le
    rw [htrim,List.length_cons] at hlength
    exact Nat.not_succ_le_self _ hlength
  · intro hspace
    exact List.dropWhile_cons_of_neg (by simpa using hspace)

theorem map_eq_self {α:Type} {f:α → α} {as:List α} : as.map f=as ↔ ∀ a∈as,f a=a:=by
 constructor
 · intro h a hmem
   exact List.map_inj_left.mp (h.trans (List.map_id as).symm) a hmem
 · intro h
   exact (List.map_congr_left h).trans (List.map_id as)

theorem joinLines_trimSpaces (data:Text) :
  joinLines ((data.splitOn '\n').map trimSpaces)=data ↔ ∀ line∈data.splitOn '\n', line.head? ≠ some ' ' := by
 have hlines:(data.splitOn '\n').map trimSpaces=data.splitOn '\n' ↔
   ∀ line∈data.splitOn '\n', line.head? ≠ some ' ' := by
  rw [map_eq_self]
  exact forall₂_congr fun line _=>trimSpaces_eq_self
 rw [← hlines]
 have hsplit:(joinLines ((data.splitOn '\n').map trimSpaces)).splitOn '\n' = (data.splitOn '\n').map trimSpaces:=by
  refine List.splitOn_intercalate '\n' (fun line hline hmem=>?_) (by simp)
  obtain ⟨part,hpart,rfl⟩:=List.mem_map.mp hline
  exact (of_mem_splitOn hpart ((List.dropWhile_suffix _).subset hmem)).2 rfl
 constructor
 · intro h
   rw [← hsplit,h]
 · intro h
   rw [h]
   exact List.intercalate_splitOn '\n'

theorem trimmed_eq_self (event:SseEvent) : trimmed event=event ↔ Unindented event:=by
 obtain ⟨name,data⟩:=event
 unfold trimmed Unindented
 rw [SseEvent.mk.injEq,joinLines_trimSpaces]
 refine and_congr_left' ?_
 cases name with
 | none=>simp
 | some name=>simp [trimSpaces_eq_self]

/-- Written events are read back exactly if none has a name or a line that begins with a space. -/
theorem parse_encode_iff (replaced:List UInt8 → Text) (events:List SseEvent) (h:∀ event∈events,Writable event) :
    parseSseEvents replaced (encodeAll events)=events ↔ ∀ event∈events,Unindented event:=by
  rw [parse_encodeAll replaced h,map_eq_self]
  exact forall₂_congr fun event _=>trimmed_eq_self event

/-- A list with an event without a name, whose data are an empty line and one with a colon. -/
theorem parse_encode_iff_nameless : let events : List SseEvent:=[⟨none,['\n',':']⟩]
    parseSseEvents (fun _=>[]) (encodeAll events)=events ↔
      ∀ event∈events,Unindented event :=
  parse_encode_iff _ _ fun event hmem=>by
    obtain rfl:=List.mem_singleton.mp hmem
    exact ⟨nofun,by decide⟩

/-- The space in front of the data is lost. -/
theorem indented_data_trimmed : ¬∀ (replaced:List UInt8 → Text) (events:List SseEvent),
    (∀ event∈events,Writable event) → parseSseEvents replaced (encodeAll events)=events:=by
  intro hall
  have hwritable:∀ event∈[(⟨none,[' ','a']⟩ : SseEvent)],Writable event:=by
    intro event hmem
    obtain rfl:=List.mem_singleton.mp hmem
    exact ⟨nofun,by decide⟩
  have hsame:=hall (fun _=>[]) _ hwritable
  rw [parse_encodeAll _ hwritable] at hsame
  exact absurd hsame (by decide)

end CursorProxy.SseRoundTrip
