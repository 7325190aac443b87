import CursorProxy.StreamingLoop
import CursorProxy.XmlElements

namespace CursorProxy.XmlParser
open CautiousScan StreamingLoop XmlElements

inductive RecoveredCursorEvent where
 | text (text:Text)
 | toolUse (tool:RecoveredCursorToolUse)

/-- `ids` counts the ids drawn from the factory so far. -/
structure CursorToolUseXmlParser where
 buffer : Text
 recoveredToolUse : Bool
 ids : ℕ

namespace CursorToolUseXmlParser

def new : CursorToolUseXmlParser := ⟨[],false,0⟩

end CursorToolUseXmlParser

def redundantCloseTags : List Text :=
 ["</tool_use>".toList,"</tool_call>".toList,"</assistant>".toList]

def dropRedundantCloseTag (recoveredToolUse:Bool) (buffer:Text) : Option Text :=
 if recoveredToolUse then
  let slice:=trimStart buffer
  (redundantCloseTags.find? fun tag=>tag.isPrefixOf slice).map fun tag=>
   buffer.takeWhile isWhitespace++slice.drop tag.length
 else none

def pushText (recoveredToolUse:Bool) (text:Text) : List RecoveredCursorEvent :=
 if text.isEmpty then []
 else if recoveredToolUse&&(trim text).isEmpty then []
 else [.text text]

def xmlToolPrefixSuffixLength (value:Text) : ℕ :=
 max (prefixSuffixLength value XmlToolKind.toolUse.openTag) (prefixSuffixLength value XmlToolKind.toolCall.openTag)

def xmlClosePrefixSuffixLength (value:Text) : ℕ :=
 (redundantCloseTags.map (prefixSuffixLength value)).foldr max 0

/-- How much of the end of a buffer without a tool start is held back. -/
def heldLength (recoveredToolUse:Bool) (buffer:Text) : ℕ :=
 let held:=xmlToolPrefixSuffixLength buffer
 if recoveredToolUse then max held (xmlClosePrefixSuffixLength buffer) else held

def wrappedBody (raw:Text) (kind:XmlToolKind) : Option Text :=
 if kind=.toolCall then
  (splitTaggedElement raw kind).bind fun (_,body)=>
   if (nextXmlToolStart body).isSome then some body else none
 else none

/-- A complete element: recovered, unwrapped or dropped. -/
def element (env:XmlEnv) (parser:CursorToolUseXmlParser) (kind:XmlToolKind) (raw rest:Text) :
 CursorToolUseXmlParser×List RecoveredCursorEvent :=
 match parseXmlTool env parser.ids raw kind with
 | some parsed=>(⟨rest,true,parser.ids+1⟩,[.toolUse parsed])
 | none=>({ parser with buffer := (wrappedBody raw kind).getD []++rest },[])

def drainBody (env:XmlEnv) (flush:Bool) (parser:CursorToolUseXmlParser) :
 Turn CursorToolUseXmlParser RecoveredCursorEvent Unit :=
 if parser.buffer.isEmpty then .done parser [] ()
 else
  match dropRedundantCloseTag parser.recoveredToolUse parser.buffer with
  | some buffer=>.again { parser with buffer } []
  | none=>
   match nextXmlToolStart parser.buffer with
   | none=>
    let hold:=if flush then 0 else heldLength parser.recoveredToolUse parser.buffer
    let stop:=parser.buffer.length-hold
    .done { parser with buffer := parser.buffer.drop stop }
     (pushText parser.recoveredToolUse (parser.buffer.take stop)) ()
   | some (start,kind)=>
    if 0<start then
     .again { parser with buffer := parser.buffer.drop start }
      (pushText parser.recoveredToolUse (parser.buffer.take start))
    else
     match findMatchingNamedClose parser.buffer kind.openTag kind.closeTag with
     | none=>
      if flush then
       .done { parser with buffer := [] }
        (if xmlTagOpenAt parser.buffer kind.openTag then []
        else pushText parser.recoveredToolUse parser.buffer) ()
      else .done parser [] ()
     | some closeStart=>
      let closeEnd:=closeStart+kind.closeTag.length
      let next:=element env parser kind (parser.buffer.take closeEnd)
       (parser.buffer.drop closeEnd)
      .again next.1 next.2

/-- The turns a round can take, with what led there. -/
inductive DrainTurn (env:XmlEnv) (flush:Bool) (parser:CursorToolUseXmlParser) :
 Turn CursorToolUseXmlParser RecoveredCursorEvent Unit → Prop where
 | empty (hbuffer:parser.buffer=[]) : DrainTurn env flush parser (.done parser [] ())
 | dropped (buffer:Text)
  (hdrop:dropRedundantCloseTag parser.recoveredToolUse parser.buffer=some buffer) :
  DrainTurn env flush parser (.again { parser with buffer } [])
 | ended (stop:ℕ) (hdrop:dropRedundantCloseTag parser.recoveredToolUse parser.buffer=none)
  (hnext:nextXmlToolStart parser.buffer=none)
  (hstop:stop=parser.buffer.length -
   if flush then 0 else heldLength parser.recoveredToolUse parser.buffer) :
  DrainTurn env flush parser (.done { parser with buffer := parser.buffer.drop stop }
   (pushText parser.recoveredToolUse (parser.buffer.take stop)) ())
 | passed (start:ℕ) (kind:XmlToolKind)
  (hdrop:dropRedundantCloseTag parser.recoveredToolUse parser.buffer=none)
  (hnext:nextXmlToolStart parser.buffer=some (start,kind)) (hstart:0<start) :
  DrainTurn env flush parser (.again { parser with buffer := parser.buffer.drop start }
   (pushText parser.recoveredToolUse (parser.buffer.take start)))
 | pending (kind:XmlToolKind) (hnext:nextXmlToolStart parser.buffer=some (0,kind))
  (hflush:flush=false) : DrainTurn env flush parser (.done parser [] ())
 | flushed (events:List RecoveredCursorEvent) (hflush:flush=true) :
  DrainTurn env flush parser (.done { parser with buffer := [] } events ())
 | completed (kind:XmlToolKind) (closeStart closeEnd:ℕ)
  (hdrop:dropRedundantCloseTag parser.recoveredToolUse parser.buffer=none)
  (hnext:nextXmlToolStart parser.buffer=some (0,kind))
  (hclose:findMatchingNamedClose parser.buffer kind.openTag kind.closeTag=some closeStart)
  (hend:closeEnd=closeStart+kind.closeTag.length) :
  DrainTurn env flush parser
   (.again (element env parser kind (parser.buffer.take closeEnd)
    (parser.buffer.drop closeEnd)).1
   (element env parser kind (parser.buffer.take closeEnd) (parser.buffer.drop closeEnd)).2)

theorem drainBody_turn (env:XmlEnv) (flush:Bool) (parser:CursorToolUseXmlParser) :
 DrainTurn env flush parser (drainBody env flush parser):=by
 unfold drainBody
 split
 · rename_i hempty
   exact .empty (List.isEmpty_iff.mp hempty)
 · split
   · rename_i buffer hdrop
     exact .dropped buffer hdrop
   · rename_i hdrop
     split
     · rename_i hnext
       exact .ended _ hdrop hnext rfl
     · rename_i start kind hnext
       split
       · rename_i hstart
         exact .passed start kind hdrop hnext hstart
       · rename_i hstart
         obtain rfl : start=0:=by omega
         split
         · split
           · rename_i hflush
             exact .flushed _ hflush
           · rename_i hflush
             exact .pending kind hnext (Bool.eq_false_iff.mpr hflush)
         · rename_i closeStart hclose
           exact .completed kind closeStart _ hdrop hnext hclose rfl

theorem redundantCloseTags_ne : ∀ tag∈redundantCloseTags,0<tag.length := by decide

theorem dropRedundantCloseTag_some {recovered:Bool} {buffer buffer':Text}
 (h:dropRedundantCloseTag recovered buffer=some buffer') :
 ∃ tag∈redundantCloseTags,∃ after,trimStart buffer=tag++after ∧
  buffer'=buffer.takeWhile isWhitespace++after ∧ recovered=true:=by
 unfold dropRedundantCloseTag at h
 split_ifs at h with hrecovered
 obtain ⟨tag,hfind,rfl⟩:=Option.map_eq_some_iff.mp h
 have hfront:=List.find?_some hfind
 obtain ⟨after,hafter⟩ := List.isPrefixOf_iff_prefix.mp hfront
 refine ⟨tag,List.mem_of_find?_eq_some hfind,after,hafter.symm,?_,hrecovered⟩
 rw [← hafter,List.drop_left]

theorem dropRedundantCloseTag_shorter {recovered:Bool} {buffer buffer':Text}
 (h:dropRedundantCloseTag recovered buffer=some buffer') : buffer'.length<buffer.length:=by
 obtain ⟨tag,htag,after,hslice,rfl,_⟩:=dropRedundantCloseTag_some h
 have hlength:=congrArg List.length (List.takeWhile_append_dropWhile (p := isWhitespace) (l := buffer))
 have hpositive:=redundantCloseTags_ne tag htag
 unfold trimStart at hslice
 rw [hslice] at hlength
 simp only [List.length_append] at hlength ⊢
 omega

theorem wrappedBody_shorter {raw body:Text} {kind:XmlToolKind} (hraw:raw≠[])
 (h:wrappedBody raw kind=some body) : body.length<raw.length:=by
 have hpositive:=List.length_pos_of_ne_nil hraw
 unfold wrappedBody at h
 split_ifs at h
 obtain ⟨⟨attrs,inner⟩,hsplit,hinner⟩:=Option.bind_eq_some_iff.mp h
 dsimp only at hinner
 split_ifs at hinner
 obtain rfl:=Option.some.inj hinner
 unfold splitTaggedElement at hsplit
 split_ifs at hsplit
 obtain ⟨gt,_,hbody⟩:=Option.map_eq_some_iff.mp hsplit
 obtain ⟨_,rfl⟩:=Prod.mk.inj hbody
 rw [List.length_drop,List.length_take]
 omega

theorem element_shorter (env:XmlEnv) (parser:CursorToolUseXmlParser) (kind:XmlToolKind)
 {raw:Text} (rest:Text) (hraw:raw≠[]) :
 (element env parser kind raw rest).1.buffer.length<raw.length+rest.length:=by
 have hpositive:=List.length_pos_of_ne_nil hraw
 unfold element
 split
 · dsimp only
   omega
 · dsimp only
   rw [List.length_append]
   cases hbody:wrappedBody raw kind with
   | none=>
    simp only [Option.getD_none,List.length_nil]
    omega
   | some body=>
    have:=wrappedBody_shorter hraw hbody
    simp only [Option.getD_some]
    omega

theorem nextXmlToolStart_nil : nextXmlToolStart []=none := rfl

theorem drainBody_shorter (env:XmlEnv) (flush:Bool) (parser next:CursorToolUseXmlParser)
 (events:List RecoveredCursorEvent) (h:drainBody env flush parser=.again next events) :
 next.buffer.length<parser.buffer.length:=by
 have hturn:=drainBody_turn env flush parser
 rw [h] at hturn
 cases hturn with
 | dropped buffer hdrop=>exact dropRedundantCloseTag_shorter hdrop
 | passed start kind _ hnext hstart=>
  have hpositive:parser.buffer≠[]:=fun hnil=>by
   rw [hnil,nextXmlToolStart_nil] at hnext
   exact absurd hnext (by simp)
  have:=List.length_pos_of_ne_nil hpositive
  dsimp only
  rw [List.length_drop]
  omega
 | completed kind closeStart closeEnd _ hnext _ hend=>
  have hpositive:parser.buffer≠[]:=fun hnil=>by
   rw [hnil,nextXmlToolStart_nil] at hnext
   exact absurd hnext (by simp)
  have hraw:parser.buffer.take closeEnd≠[]:=by
   have hclose:0<kind.closeTag.length:=by cases kind <;> decide
   rw [ne_eq,List.take_eq_nil_iff]
   rintro (hzero | hnil)
   · omega
   · exact hpositive hnil
  have hshorter:=element_shorter env parser kind (parser.buffer.drop closeEnd) hraw
  rwa [← List.length_append,List.take_append_drop] at hshorter

def drain (env:XmlEnv) (flush:Bool) : MeasuredLoop CursorToolUseXmlParser RecoveredCursorEvent Unit where
 body := drainBody env flush
 measure parser := parser.buffer.length
 decreases := drainBody_shorter env flush

namespace CursorToolUseXmlParser

def extend (parser:CursorToolUseXmlParser) (text:Text) : CursorToolUseXmlParser :=
 { parser with buffer := parser.buffer++text }

def push (env:XmlEnv) (parser:CursorToolUseXmlParser) (text:Text) : CursorToolUseXmlParser×List RecoveredCursorEvent :=
 let drained:=(drain env false).run (parser.extend text)
 (drained.state,drained.out)

def flush (env:XmlEnv) (parser:CursorToolUseXmlParser) : CursorToolUseXmlParser×List RecoveredCursorEvent :=
 let drained:=(drain env true).run parser
 (drained.state,drained.out)

/-- Push the deltas one after the other, then flush. -/
def recover (env:XmlEnv) : CursorToolUseXmlParser → List Text → List RecoveredCursorEvent
 | parser,[]=>(parser.flush env).2
 | parser,delta::deltas=>
  (parser.push env delta).2++recover env (parser.push env delta).1 deltas

end CursorToolUseXmlParser
end CursorProxy.XmlParser
