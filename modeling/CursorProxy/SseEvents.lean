import CursorProxy.XmlElements

namespace CursorProxy.SseEvents
open XmlElements

def bytesOf (text:Text) : List UInt8 := text.flatMap String.utf8EncodeChar

theorem bytesOf_append (text rest:Text) : bytesOf (text++rest)=bytesOf text++bytesOf rest :=
 List.flatMap_append ..

theorem ascii_of_mem {char:Char} {byte:UInt8} (hascii:byte.toNat<128)
 (hmem:byte∈String.utf8EncodeChar char) : char.toNat=byte.toNat:=by
 unfold String.utf8EncodeChar at hmem
 dsimp only at hmem
 change char.val.toNat=_
 generalize char.val.toNat=v at hmem ⊢
 have hsize:∀ n:ℕ,(UInt8.ofNat n).toNat=n % 256:=fun n=>UInt8.toNat_ofNat'
 split_ifs at hmem
 all_goals simp only [List.mem_cons,List.not_mem_nil,or_false] at hmem
 · rw [hmem,hsize]
   omega
 · rcases hmem with rfl | rfl <;> (rw [hsize] at hascii; omega)
 · rcases hmem with rfl | rfl | rfl <;> (rw [hsize] at hascii; omega)
 · rcases hmem with rfl | rfl | rfl | rfl <;> (rw [hsize] at hascii; omega)

structure SseEvent where
 event : Option Text
 data : Text
deriving DecidableEq

/-- `\r\n` and a lone `\r` become one `\n`. -/
def normalizeLines : Text → Text
 | []=>[]
 | '\r' :: '\n' :: rest => '\n' :: normalizeLines rest
 | '\r' :: rest => '\n' :: normalizeLines rest
 | char::rest=>char::normalizeLines rest

/-- The event that the lines so far name, and their data. -/
structure BlockState where
 event : Option Text
 dataLines : List Text
 events : List SseEvent

def joinLines (lines:List Text) : Text := List.intercalate ['\n'] lines

def BlockState.pushIfRelevant (s:BlockState) : BlockState :=
 if s.dataLines.isEmpty then { s with event := none }
 else ⟨none,[],s.events++[⟨s.event,joinLines s.dataLines⟩]⟩

def BlockState.readLine (s:BlockState) (raw:Text) : BlockState :=
 if raw.isEmpty||raw.head?==some ':' then s
 else
  let key:=raw.takeWhile fun char=>char ≠ ':'
  let value:=(raw.drop (key.length+1)).dropWhile fun char=>char = ' '
  if key = "event".toList then { s.pushIfRelevant with event := some value }
  else if key = "data".toList then { s with dataLines := s.dataLines++[value] }
  else s

def parseBlock (block:Text) : List SseEvent :=
 ((block.splitOn '\n').foldl BlockState.readLine ⟨none,[],[]⟩).pushIfRelevant.events

def parseSegments : Text → List Text → List SseEvent
 | block,[]=>if block.isEmpty then [] else parseBlock block
 | block,segment::segments=>
  if segment.isEmpty then parseBlock block++parseSegments [] segments
  else parseSegments ((if block.isEmpty then block else block++['\n'])++segment) segments

def parseSseText (text:Text) : List SseEvent :=
 parseSegments [] ((normalizeLines text).splitOn '\n')

theorem normalizeLines_cons (char:Char) (text:Text) (hreturn:char ≠ '\r') :
 normalizeLines (char::text)=char::normalizeLines text:=by
 rw [normalizeLines]
 · intro _ h
   exact absurd h hreturn
 · exact hreturn

theorem normalizeLines_return (text:Text) (h:text.head? ≠ some '\n') :
 normalizeLines ('\r' :: text) = '\n' :: normalizeLines text:=by
 cases text with
 | nil=>rfl
 | cons char text=>
  rw [normalizeLines]
  intro rest heq
  exact h (congrArg List.head? heq)

theorem normalizeLines_append (text:Text) : ∃ lines:Text,∀ rest,
 normalizeLines (text ++ '\n' :: rest)=lines ++ '\n' :: normalizeLines rest:=by
 induction text using normalizeLines.induct with
 | case1=>exact ⟨[],fun rest=>normalizeLines_cons _ _ (by decide)⟩
 | case2 text ih=>
  obtain ⟨lines,hlines⟩:=ih
  exact ⟨'\n' :: lines,fun rest=>congrArg ('\n' :: ·) (hlines rest)⟩
 | case3 text hnext ih=>
  cases text with
  | nil=>exact ⟨[],fun _=>rfl⟩
  | cons char text=>
   obtain ⟨lines,hlines⟩:=ih
   have hchar:char ≠ '\n' := fun heq=>hnext text (heq ▸ rfl)
   refine ⟨'\n' :: lines,fun rest=>?_⟩
   change normalizeLines ('\r' :: (char::text ++ '\n' :: rest))=_
   have hhead:(char::text ++ '\n' :: rest).head? ≠ some '\n' :=
    fun heq=>hchar (Option.some.inj heq)
   rw [normalizeLines_return _ hhead,hlines]
   rfl
 | case4 char text hcrlf hreturn ih=>
  obtain ⟨lines,hlines⟩:=ih
  refine ⟨char::lines,fun rest=>?_⟩
  change normalizeLines (char::(text ++ '\n' :: rest))=_
  rw [normalizeLines_cons _ _ hreturn,hlines]
  rfl

theorem parseSegments_cons (block segment:Text) (segments:List Text) :
 parseSegments block (segment::segments) = if segment.isEmpty then parseBlock block++parseSegments [] segments
  else parseSegments ((if block.isEmpty then block else block++['\n'])++segment) segments :=
 rfl

theorem parseSegments_blank (before after:List Text) : ∀ block:Text,
 parseSegments block (before++[]::after) = parseSegments block (before++[[]])++parseSegments [] after:=by
 induction before with
 | nil=>
  intro block
  change parseBlock block++parseSegments [] after = parseBlock block++parseSegments [] []++parseSegments [] after
  exact congrArg (· ++ parseSegments [] after) (List.append_nil (parseBlock block)).symm
 | cons segment before ih=>
  intro block
  rw [List.cons_append,List.cons_append,parseSegments_cons,parseSegments_cons]
  split_ifs
  · rw [ih,List.append_assoc]
  · exact ih _
  · exact ih _

theorem parseSseText_append (text rest:Text) :
 parseSseText (text ++ '\n' :: '\n' :: rest) = parseSseText (text++['\n','\n'])++parseSseText rest:=by
 obtain ⟨lines,hlines⟩:=normalizeLines_append text
 have hsegments:∀ rest,(normalizeLines (text ++ '\n' :: '\n' :: rest)).splitOn '\n' =
  lines.splitOn '\n' ++ []::(normalizeLines rest).splitOn '\n' := by
  intro rest
  rw [hlines,normalizeLines_cons _ _ (by decide),List.splitOn_append_cons_self]
  exact congrArg (lines.splitOn '\n' ++ ·) (List.splitOn_append_cons_self [] (normalizeLines rest))
 have hends:∀ block:Text,parseSegments block (lines.splitOn '\n' ++ [[],[]]) =
  parseSegments block (lines.splitOn '\n' ++ [[]]):=by
  intro block
  rw [parseSegments_blank]
  exact List.append_nil _
 unfold parseSseText
 rw [hsegments,hsegments,parseSegments_blank]
 exact congrArg (· ++ _) (hends []).symm

end CursorProxy.SseEvents
