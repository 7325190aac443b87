import CursorProxy.XmlElements

/-! A call comes in parts, which are joined under an id. Only the tool events of a frame are kept
here, and the END frame is the empty one; the reader of JSON texts is a parameter. -/
namespace CursorProxy.SandToolParts
open JsonValues XmlElements

structure SandToolEnv where
 /-- `serde_json::from_str`. -/
 fromStr : Text → Option JsonValue
 /-- The calls of the older envelopes. -/
 extractToolCalls : JsonValue → List (String×String×JsonValue)

structure NativeTool where
 toolUseId : String
 name : String
 input : JsonValue

structure SandToolPart where
 id : String
 name : String
 args : Option JsonValue
 done : Bool
 index : Option ℤ

structure SandToolBuffer where
 name : String
 argsText : Text
 argsValue : Option JsonValue
 complete : Bool

def SandToolBuffer.empty : SandToolBuffer := ⟨"",[],none,false⟩

abbrev ToolBuffers := AList fun _ : String=>SandToolBuffer

def valueAsString : JsonValue → Option String
 | .string text=>some text
 | .number text=>some text
 | .bool true=>some "true"
 | .bool false=>some "false"
 | _=>none

/-- The member under the first of several keys at which it can be read. -/
def firstOf {α:Type} (keys:List String) (read:JsonValue → Option α) (value:JsonValue) : Option α :=
 keys.findSome? fun key=>(value.get key).bind read

def idKeys : List String := ["toolCallId","tool_call_id","id","callId","call_id"]

def nameKeys : List String := ["toolName","tool_name","name"]

def argsKeys : List String :=
 ["args","arguments","input","toolCallArgs","tool_call_args","argsText","args_text"]

def doneKeys : List String :=
 ["done","isDone","is_done","finished","isFinished","is_finished","complete","completed",
  "isComplete","is_complete","final","isFinal","is_final"]

def indexKeys : List String := ["toolIndex","tool_index","index"]

def asI32 (value:ℤ) : Option ℤ := if -2 ^ 31 ≤ value ∧ value<2 ^ 31 then some value else none

def toolPart (object:JsonValue) : SandToolPart where
 id := (firstOf idKeys valueAsString object).getD ""
 name := ((firstOf nameKeys valueAsString object).orElse fun _=>
  (member "name" (object.get "function")).bind valueAsString).getD ""
 args := (firstOf argsKeys some object).orElse fun _=>object.get "delta"
 done := doneKeys.any fun key=>((object.get key).bind JsonValue.asBool).getD false
 index := (firstOf indexKeys JsonValue.asI64 object).bind asI32

mutual

def collectToolPartValue : JsonValue → List SandToolPart
 | .array items=>collectToolPartItems items
 | .object members=>
  let part:=toolPart (.object members)
  if !part.id.isEmpty||!part.name.isEmpty||part.args.isSome then [part] else []
 | _=>[]

def collectToolPartItems : List JsonValue → List SandToolPart
 | []=>[]
 | item::items=>collectToolPartValue item++collectToolPartItems items

end

def asciiLowercase (text:String) : String := String.ofList (text.toList.map Char.toLower)

mutual

def collectToolCallParts : JsonValue → List SandToolPart
 | .object members=>collectMembers members
 | _=>[]

def collectMembers : List (String×JsonValue) → List SandToolPart
 | []=>[]
 | (key,child)::members=>
  (if ["toolcallpart","tool_call_part"].contains (asciiLowercase key) then
   collectToolPartValue child
  else if !(["input","arguments","args"].contains (asciiLowercase key)) then
   collectToolCallParts child
  else [])++collectMembers members

end

def mergeToolArgsText (env:SandToolEnv) (existing update:Text) : Text :=
 if update.isEmpty then existing
 else if existing.isEmpty then update
 else if update=existing then existing
 else if existing.isPrefixOf update then update
 else if update.isPrefixOf existing then existing
 else if (env.fromStr existing).isSome&&(env.fromStr update).isSome then update
 else existing++update

def completeToolInput (env:SandToolEnv) (buffer:SandToolBuffer) : Option JsonValue :=
 if !buffer.complete then none
 else match buffer.argsValue with
  | some value=>some value
  | none=>
   if (trim buffer.argsText).isEmpty then some (.object [])
   else env.fromStr buffer.argsText

/-- What a part adds to the buffer of its call. -/
def SandToolBuffer.add (env:SandToolEnv) (buffer:SandToolBuffer) (part:SandToolPart) : SandToolBuffer :=
 let named:=if part.name.isEmpty then buffer else { buffer with name := part.name }
 match part.args with
 | some (.string fragment)=>{ named with
  argsText := mergeToolArgsText env named.argsText fragment.toList
  complete := named.complete||part.done }
 | some value=>{ named with argsValue := some value,complete := true }
 | none=>{ named with complete := named.complete||part.done }

structure ToolState where
 buffers : ToolBuffers
 completed : List String

def partId (buffers:ToolBuffers) (part:SandToolPart) : Option String :=
 if !part.id.isEmpty then some part.id
 else match part.index with
  | some index=>some ("sand_tool_index_" ++ index.repr)
  | none=>
   if part.done then some ("sand_tool_anon_" ++ (buffers.entries.length+1).repr) else none

def ingestToolCallPart (env:SandToolEnv) (s:ToolState) (part:SandToolPart) : ToolState×Option NativeTool :=
 match partId s.buffers part with
 | none=>(s,none)
 | some id=>
  if s.completed.contains id then (s,none)
  else
   let buffer:=((s.buffers.lookup id).getD .empty).add env part
   if !buffer.complete then ({ s with buffers := s.buffers.insert id buffer },none)
   else match completeToolInput env buffer with
    | none=>({ s with buffers := s.buffers.erase id },none)
    | some input=>
     if buffer.name.isEmpty then ({ s with buffers := s.buffers.insert id buffer },none)
     else (⟨s.buffers.erase id,id::s.completed⟩,some ⟨id,buffer.name,input⟩)

def ingestToolCallParts (env:SandToolEnv) : ToolState → List SandToolPart → ToolState×List NativeTool
 | s,[]=>(s,[])
 | s,part::parts=>
  let (s,event):=ingestToolCallPart env s part
  let (s,events):=ingestToolCallParts env s parts
  (s,event.toList++events)

/-- The older envelopes are read only where there is no part. -/
def eventsFromJsonWithState (env:SandToolEnv) (s:ToolState) (value:JsonValue) : ToolState×List NativeTool :=
 match collectToolCallParts value with
 | []=>(s,(env.extractToolCalls value).map fun (id,name,input)=>⟨id,name,input⟩)
 | parts=>ingestToolCallParts env s parts

def flushToolBuffers (env:SandToolEnv) (completed:List String) :
 List (String×SandToolBuffer) → List String×List NativeTool
 | []=>(completed,[])
 | (id,buffer)::buffers=>
  match completeToolInput env buffer with
  | none=>flushToolBuffers env completed buffers
  | some input=>
   if !buffer.name.isEmpty&&!completed.contains id then
    let (completed,events):=flushToolBuffers env (id::completed) buffers
    (completed,⟨id,buffer.name,input⟩::events)
   else flushToolBuffers env completed buffers

def jsonError : ℕ → JsonValue → Bool
 | depth,value=>
  (value.get "error").any (fun error=>!(error matches .null)) ||
   (["responseInfo","response_info"].any fun key=>(value.get key).any fun info=>
    (((info.get "errorMessage").orElse fun _=>info.get "error_message").bind
     JsonValue.asStr).any fun message=>!(trim message.toList).isEmpty) ||
   match depth with
   | 0=>false
   | depth+1=>["result","response","data","payload"].any fun key=>
    (value.asObject.bind fun _=>value.get key).any (jsonError depth)

def terminalKeys : List String :=
 ["done","finished","isFinished","is_finished","endOfStream","end_of_stream"]

def marksEnd (value:JsonValue) : Bool :=
 (terminalKeys.any fun key=>((value.get key).bind JsonValue.asBool).getD false) ||
  ((value.get "finishReason").orElse fun _=>value.get "finish_reason").any fun reason=>
   !(reason matches .null)&&reason.asStr != some ""

mutual

def jsonIsTerminal : JsonValue → Bool
 | .object members=>marksEnd (.object members)||memberIsTerminal members
 | _=>false

def memberIsTerminal : List (String×JsonValue) → Bool
 | []=>false
 | (key,child)::members=>
  (["result","response","data","payload"].contains key&&jsonIsTerminal child) ||
   memberIsTerminal members

end

inductive SandFrame where
 | data (value:JsonValue)
 | «end»

structure SandInferenceStream where
 tools : ToolState
 /-- Whether the stream has queued its end or an error. -/
 terminalEmitted : Bool
 toolEvents : List NativeTool

namespace SandInferenceStream

def new : SandInferenceStream := ⟨⟨∅,[]⟩,false,[]⟩

def emitEndOnce (env:SandToolEnv) (s:SandInferenceStream) : SandInferenceStream :=
 if s.terminalEmitted then s
 else
  let flushed:=flushToolBuffers env s.tools.completed
   (s.tools.buffers.entries.map fun entry=>(entry.1,entry.2))
  ⟨⟨∅,flushed.1⟩,true,s.toolEvents++flushed.2⟩

def queueJsonValue (env:SandToolEnv) (s:SandInferenceStream) (value:JsonValue) : SandInferenceStream :=
 if s.terminalEmitted then s
 else if jsonError 8 value then { s with terminalEmitted := true }
 else
  let value:=(value.get "result").getD value
  let answer:=eventsFromJsonWithState env s.tools value
  let told:={ s with tools := answer.1,toolEvents := s.toolEvents++answer.2 }
  if jsonIsTerminal value then told.emitEndOnce env else told

def queueFrame (env:SandToolEnv) (s:SandInferenceStream) : SandFrame → SandInferenceStream
 | .data value=>s.queueJsonValue env value
 | .end=>s.emitEndOnce env

end SandInferenceStream

def toolEventsOf (env:SandToolEnv) (frames:List SandFrame) : List NativeTool :=
 (frames.foldl (SandInferenceStream.queueFrame env) .new).toolEvents

end CursorProxy.SandToolParts
