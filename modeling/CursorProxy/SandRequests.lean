import CursorProxy.RetryPolicy

/-! An Anthropic request is validated in one traversal of its blocks and converted to the
messages of the inference service in another. Base64 and the printing of JSON are parameters. -/
namespace CursorProxy.SandRequests
open JsonValues RetryPolicy ToolNames XmlElements

local instance : LawfulBEq Text := inferInstance

structure Message where
 role : String
 content : JsonValue

structure MessagesRequest where
 maxTokens : Option ℕ
 messages : List Message
 extra : JsonValue

structure SandRequestEnv where
 standard : Text → Option (List UInt8)
 standardNoPad : Text → Option (List UInt8)
 urlSafe : Text → Option (List UInt8)
 urlSafeNoPad : Text → Option (List UInt8)
 encodeBase64 : List UInt8 → Text
 /-- `serde_json::to_string`. -/
 toJson : JsonValue → Option Text

def messageBlocks (message:Message) : List JsonValue :=
 match message.content with
 | .string text=>[.object [("text",.string text),("type",.string "text")]]
 | .array items=>items
 | .object members=>
  if ((JsonValue.object members).get "type").isSome then [.object members] else []
 | _=>[]

def str (value:JsonValue) (key:String) : Option String := (value.get key).bind JsonValue.asStr

def blockType (block:JsonValue) : String := (str block "type").getD "text"

/-- The arms by which both traversals tell blocks apart. -/
inductive BlockKind where
 | text
 | thinking
 | compaction
 | image
 | document
 | toolUse
 | toolResult
 | server
 | other
deriving DecidableEq

def blockKind (block:JsonValue) : BlockKind :=
 let name:=blockType block
 if name = "text" then .text
 else if name = "thinking" ∨ name = "redacted_thinking" then .thinking
 else if name = "compaction" then .compaction
 else if name = "image" ∨ name = "input_image" ∨ name = "image_url" then .image
 else if name = "document" ∨ name = "file" then .document
 else if name = "tool_use" then .toolUse
 else if name = "tool_result" then .toolResult
 else if name = "server_tool_use" ∨ name = "web_search_tool_result" then .server
 else .other

def normalRole (message:Message) : Text := toAsciiLowercase (trim message.role.toList)

def blank (text:Text) : Bool := (trim text).isEmpty

def trimmed (value:JsonValue) (key:String) : Option Text :=
 ((str value key).map fun text=>trim text.toList).filter fun text=>!text.isEmpty

structure Validation where
 toolCalls : List (Text×Text)
 toolResults : List Text
 representableBlocks : ℕ

def place (messageIndex blockIndex:ℕ) : String :=
 "messages[" ++ toString messageIndex ++ "].content[" ++ toString blockIndex ++ "]"

def validateToolUse (messageIndex blockIndex:ℕ) (role:Text) (state:Validation)
 (block:JsonValue) : Except String Validation :=
 if role ≠ "assistant".toList then
  .error (place messageIndex blockIndex ++ " tool_use must have assistant role")
 else match trimmed block "id" with
 | none=>.error (place messageIndex blockIndex ++ " tool_use.id is required")
 | some id=>match trimmed block "name" with
  | none=>.error (place messageIndex blockIndex ++ " tool_use.name is required")
  | some name=>
   if (state.toolCalls.lookup id).isSome then
    .error ("duplicate tool_use id: " ++ String.ofList id)
   else .ok { state with
    toolCalls := (id,name)::state.toolCalls
    representableBlocks := state.representableBlocks+1 }

def validateToolResult (messageIndex blockIndex:ℕ) (role:Text) (state:Validation)
 (block:JsonValue) : Except String Validation :=
 if role ≠ "user".toList ∧ role ≠ "tool".toList then
  .error (place messageIndex blockIndex ++ " tool_result must have user/tool role")
 else match trimmed block "tool_use_id" with
 | none=>.error (place messageIndex blockIndex ++ " tool_result.tool_use_id is required")
 | some id=>match state.toolCalls.lookup id with
  | none=>.error ("tool_result references unknown tool_use id: " ++ String.ofList id)
  | some expected=>
   let mismatch:=(trimmed block "name").filter fun actual=>actual≠expected
   match mismatch with
   | some actual=>.error ("tool_result name " ++ String.ofList actual ++
    " does not match " ++ String.ofList expected ++ " for " ++ String.ofList id)
   | none=>
    if id∈state.toolResults then
     .error ("duplicate tool_result for tool_use id: " ++ String.ofList id)
    else .ok { state with
     toolResults := id::state.toolResults
     representableBlocks := state.representableBlocks+1 }

def Validation.represent (state:Validation) (represented:Bool) : Validation :=
 if represented then { state with representableBlocks := state.representableBlocks+1 } else state

def validateBlock (messageIndex:ℕ) (role:Text) (state:Validation) (entry:JsonValue×ℕ) : Except String Validation :=
 let block:=entry.1
 match blockKind block with
 | .toolUse=>validateToolUse messageIndex entry.2 role state block
 | .toolResult=>validateToolResult messageIndex entry.2 role state block
 | .text | .other=>.ok (state.represent (trimmed block "text").isSome)
 | .thinking | .compaction | .image | .document | .server=>.ok (state.represent true)

def supportedRoles : List String := ["user","assistant","system","tool"]

def validateMessage (state:Validation) (entry:Message×ℕ) : Except String Validation :=
 let role:=normalRole entry.1
 if role ∉ supportedRoles.map String.toList then
  .error ("messages[" ++ toString entry.2 ++ "].role is not supported: " ++ entry.1.role)
 else (messageBlocks entry.1).zipIdx.foldlM (validateBlock entry.2 role) state

def validateTool (names:List Text) (entry:JsonValue×ℕ) : Except String (List Text) :=
 let tool:=entry.1
 let index:=toString entry.2
 match trimmed tool "name" with
 | none=>.error ("tools[" ++ index ++ "].name is required")
 | some name=>
  if name∈names then .error ("duplicate tool name: " ++ String.ofList name)
  else match (tool.get "input_schema").or (tool.get "parameters") with
  | none=>.error ("tools[" ++ index ++ "].input_schema is required")
  | some schema=>
   if schema.asObject.isNone then
    .error ("tools[" ++ index ++ "].input_schema must be an object")
   else .ok (name::names)

def validateTools (extra:JsonValue) : Except String Unit :=
 match extra.get "tools" with
 | none=>.ok ()
 | some tools=>match tools.asArray with
  | none=>.error "tools must be an array"
  | some tools=>do
   let _ ← tools.zipIdx.foldlM validateTool []
   return ()

def validateAnthropicRequest (request:MessagesRequest) : Except String Unit :=
 if request.messages.isEmpty then .error "messages must contain at least one item"
 else if request.maxTokens=some 0 then .error "max_tokens must be greater than zero"
 else match request.messages.zipIdx.foldlM validateMessage ⟨[],[],0⟩ with
 | .error error=>.error error
 | .ok state=>
  if state.representableBlocks=0 then .error "messages contain no representable content"
  else validateTools request.extra

def decodeBase64Flexible (env:SandRequestEnv) (value:Text) : Option (List UInt8) :=
 env.standard value <|> env.standardNoPad value <|> env.urlSafe value <|> env.urlSafeNoPad value

/-- The media type and the text of the bytes; `none` for a URI that is not in base64. -/
def dataUri (raw:Text) : Option (Option Text×Text) :=
 match stripPrefix "data:".toList raw with
 | none=>some (none,raw)
 | some rest=>(splitOnce ",".toList rest).bind fun (metadata,encoded)=>
  let parts:=metadata.splitOn ';'
  if parts.any fun part=>toAsciiLowercase part == "base64".toList then
   some (parts.head?.filter fun mime=>!mime.isEmpty,encoded)
  else none

def sniffImageMime (data:List UInt8) : Option String :=
 if [0x89,0x50,0x4e,0x47,0x0d,0x0a,0x1a,0x0a].isPrefixOf data then some "image/png"
 else if [0xff,0xd8].isPrefixOf data then some "image/jpeg"
 else if [0x47,0x49,0x46,0x38,0x37,0x61].isPrefixOf data ||
  [0x47,0x49,0x46,0x38,0x39,0x61].isPrefixOf data then some "image/gif"
 else if 12 ≤ data.length ∧ data.take 4=[0x52,0x49,0x46,0x46] ∧
  (data.drop 8).take 4=[0x57,0x45,0x42,0x50] then some "image/webp"
 else if [0x42,0x4d].isPrefixOf data then some "image/bmp"
 else none

def normalizeMimeType (hinted:Option Text) (data:List UInt8) : Text :=
 let hinted:=((((hinted.map trim).filter fun mime=>"image/".toList.isPrefixOf mime).bind
  fun mime=>(mime.splitOn ';').head?).filter fun mime=>!mime.isEmpty)
 ((hinted.map toAsciiLowercase).or ((sniffImageMime data).map String.toList)).getD "image/png".toList

def normalizeImageData (env:SandRequestEnv) (raw:String) (hintedMime:Option String) : Option (Text×Text) :=
 let raw:=trim raw.toList
 if raw.isEmpty then none
 else (dataUri raw).bind fun (uriMime,encoded)=>
  (decodeBase64Flexible env (encoded.filter fun char=>!isAsciiWhitespace char)).map
   fun bytes=>(env.encodeBase64 bytes,
    normalizeMimeType ((hintedMime.map String.toList).or uriMime) bytes)

/-- The first of two members that is there, as a string. -/
def eitherStr (value:JsonValue) (first second:String) : Option String :=
 ((value.get first).or (value.get second)).bind JsonValue.asStr

def asObjectValue (value:Option JsonValue) : Option JsonValue :=
 value.filter fun value=>value.asObject.isSome

def imageCandidate (block:JsonValue) : Option (String×Option String) :=
 (str block "type").bind fun kind=>
  let source:=asObjectValue (block.get "source")
  let hinted:=source.bind fun source=>eitherStr source "media_type" "mime_type"
  if kind = "image" then
   ((source.bind fun source=>str source "data").map (·,hinted)).or
    (((source.bind fun source=>str source "url").map (·,hinted)).or
     ((str block "data").map (·,none)))
  else if kind = "input_image" ∨ kind = "image_url" then
   ((source.bind fun source=>eitherStr source "data" "url").map (·,hinted)).or
    (((block.get "image_url").or ((block.get "imageUrl").or (block.get "url"))).bind
     fun value=>match value.asStr with
      | some url=>some (url,none)
      | none=>(asObjectValue (some value)).bind fun object=>
       (eitherStr object "url" "data").map (·,eitherStr object "media_type" "mime_type"))
  else none

def imagePart (env:SandRequestEnv) (block:JsonValue) : Option JsonValue :=
 (imageCandidate block).bind fun (raw,hintedMime)=>
  (normalizeImageData env raw hintedMime).map fun (data,mimeType)=>
   .object [("image",.object
    [("data",.string (String.ofList ("data:".toList++mimeType ++ ";base64,".toList++data))),
     ("mimeType",.string (String.ofList mimeType))])]

def filePart (env:SandRequestEnv) (block:JsonValue) : Option JsonValue :=
 let source:=asObjectValue (block.get "source")
 let file:=asObjectValue (block.get "file")
 if (source.bind fun source=>str source "type").any fun kind=>eqIgnoreAsciiCase kind "text"
  then
  none
 else
  let found :=
   (source.bind fun source=>(source.get "data").or (source.get "file_data")).or
    ((file.bind fun file=>(file.get "file_data").or (file.get "data")).or (block.get "data"))
  (found.bind JsonValue.asStr).bind fun raw=>
   let raw:=trim raw.toList
   if raw.isEmpty || "http://".toList.isPrefixOf raw || "https://".toList.isPrefixOf raw then
    none
   else
    let mime:=((source.bind fun source=>(source.get "media_type").or
     (source.get "mime_type")).or
     ((file.bind fun file=>(file.get "media_type").or (file.get "mime_type")).or
      ((block.get "media_type").or (block.get "mime_type")))).bind JsonValue.asStr
    let hintedMime:=((mime.map String.toList).filter fun mime=>!blank mime).getD
     "application/octet-stream".toList
    let name:=((source.bind fun source=>(source.get "filename").or
     ((source.get "name").or (block.get "title"))).or
     ((file.bind fun file=>(file.get "filename").or (file.get "name")).or
      ((block.get "filename").or ((block.get "name").or (block.get "title"))))).bind
       JsonValue.asStr
    let filename:=((name.map fun name=>trim name.toList).filter
     fun name=>!name.isEmpty).getD
      (if eqIgnoreAsciiCase ((str block "type").getD "") "document" then "document".toList
       else "file".toList)
    (dataUri raw).bind fun (uriMime,encoded)=>
     (decodeBase64Flexible env (encoded.filter fun char=>!isAsciiWhitespace char)).map
      fun bytes=>
       let given:=trim (uriMime.getD hintedMime)
       let mimeType:=if given.isEmpty then "application/octet-stream".toList else given
       .object [("file",.object
        [("data",.string (String.ofList ("data:".toList++mimeType ++
         ";base64,".toList++env.encodeBase64 bytes))),("filename",.string (String.ofList filename)),
         ("mediaType",.string (String.ofList mimeType))])]

def documentText (block:JsonValue) : Option Text :=
 let source:=asObjectValue (block.get "source")
 let found:=((source.bind (JsonValue.get "text")).or (block.get "text")).bind JsonValue.asStr
 (found.map fun text=>trim text.toList).filter fun text=>!text.isEmpty

def modelName (block:JsonValue) : List (String×JsonValue) :=
 match (eitherStr block "model_name" "modelName").filter fun model=>model ≠ "" with
 | some model=>[("modelName",.string model)]
 | none=>[]

def historicalReasoningPart (block:JsonValue) : Option JsonValue :=
 if str block "type" = some "redacted_thinking" then
  ((str block "data").filter fun data=>data ≠ "").map fun data=>
   .object ([("isRedacted",.bool true)]++modelName block ++ [("redactedData",.string data),("text",.string "")])
 else
  ((str block "signature").filter fun signature=>
   signature ≠ "" ∧ signature ≠ "cursor-proxy").map fun signature=>
    .object ([("isRedacted",.bool false)]++modelName block ++
     [("signature",.string signature),("text",.string ((str block "thinking").getD ""))])

def roleUser : ℕ := 1
def roleAssistant : ℕ := 2
def roleTool : ℕ := 3
def roleSystem : ℕ := 4

structure SandInferenceMessage where
 role : ℕ
 text : Option Text
 parts : List JsonValue
 toolCalls : List JsonValue
 toolContent : Option JsonValue
 reasoningParts : List JsonValue

def SandInferenceMessage.tool (parts:List JsonValue) : SandInferenceMessage where
 role := roleTool
 text := none
 parts := []
 toolCalls := []
 toolContent := some (.object [("parts",.array parts)])
 reasoningParts := []

def sandRole (message:Message) : ℕ :=
 if normalRole message = "system".toList then roleSystem
 else if normalRole message = "assistant".toList then roleAssistant
 else if normalRole message = "tool".toList then roleTool
 else roleUser

/-- Ids and names of the tools that assistant messages use; a later one replaces an earlier. -/
def assistantToolNames (request:MessagesRequest) : List (String×String) :=
 ((request.messages.filter fun message=>eqIgnoreAsciiCase message.role "assistant").flatMap
  fun message=>(messageBlocks message).filterMap fun block=>
   if str block "type" = some "tool_use" then
    (str block "id").bind fun id=>(str block "name").map (id,·)
   else none).reverse

structure Draft where
 text : Text
 parts : List JsonValue
 toolCalls : List JsonValue
 toolResults : List JsonValue
 reasoningParts : List JsonValue

def Draft.empty : Draft := ⟨[],[],[],[],[]⟩

def appendText (target value:Text) : Text :=
 if value.isEmpty then target
 else if target.isEmpty then value
 else target ++ '\n' :: value

def textPart (text:Text) : JsonValue :=
 .object [("text",.object [("text",.string (String.ofList text))])]

def flushTextPart (draft:Draft) : Draft :=
 if draft.text.isEmpty then draft
 else { draft with text := [],parts := draft.parts++[textPart draft.text] }

def Draft.write (draft:Draft) (value:Option Text) : Draft :=
 match value with
 | some value=>{ draft with text := appendText draft.text value }
 | none=>draft

def Draft.pushPart (draft:Draft) (part:JsonValue) : Draft :=
 let flushed:=flushTextPart draft
 { flushed with parts := flushed.parts++[part] }

def callEntry (block:JsonValue) : JsonValue :=
 .object [("args",(block.get "input").getD (.object [])),("toolCallId",.string ((str block "id").getD "")),
  ("toolName",.string ((str block "name").getD ""))]

def resultEntry (toolNames:List (String×String)) (block:JsonValue) : JsonValue :=
 let id:=(str block "tool_use_id").getD ""
 .object [("isError",.bool (((block.get "is_error").bind JsonValue.asBool).getD false)),
  ("result",(block.get "content").getD .null),("toolCallId",.string id),
  ("toolName",.string (((str block "name").or (toolNames.lookup id)).getD "unknown_tool"))]

def convertBlock (env:SandRequestEnv) (compactionMode:Bool)
 (toolNames:List (String×String)) (role:ℕ) (draft:Draft) (block:JsonValue) : Draft :=
 match blockKind block with
 | .text | .other=>draft.write ((str block "text").map String.toList)
 | .thinking=>
  if role=roleAssistant ∧ compactionMode=false then
   match historicalReasoningPart block with
   | some part=>{ draft with reasoningParts := draft.reasoningParts++[part] }
   | none=>draft
  else draft
 | .compaction=>draft.write ((str block "content").map String.toList)
 | .image=>match imagePart env block with
  | some part=>draft.pushPart part
  | none=>draft
 | .document=>match filePart env block with
  | some part=>draft.pushPart part
  | none=>draft.write (documentText block)
 | .toolUse=>
  if role=roleAssistant ∧ ((str block "id").getD "" ≠ "" ∨ (str block "name").getD "" ≠ "") then
   { draft with toolCalls := draft.toolCalls++[callEntry block] }
  else draft
 | .toolResult=>
  if (str block "tool_use_id").getD "" ≠ "" then
   { draft with toolResults := draft.toolResults++[resultEntry toolNames block] }
  else draft
 | .server=>draft.write (env.toJson block)

def contentMessage (role:ℕ) (text:Text) (parts toolCalls:List JsonValue) : SandInferenceMessage where
 role := role
 text := if !blank text&&parts.isEmpty then some text else none
 parts := if !blank text&&!parts.isEmpty then parts++[textPart text] else parts
 toolCalls := toolCalls
 toolContent := none
 reasoningParts := []

def convertMessage (env:SandRequestEnv) (compactionMode:Bool)
 (toolNames:List (String×String)) (message:Message) : List SandInferenceMessage :=
 let role:=sandRole message
 let draft:=(messageBlocks message).foldl (convertBlock env compactionMode toolNames role) .empty
 if !draft.toolResults.isEmpty then
  .tool draft.toolResults ::
   if !blank draft.text||!draft.parts.isEmpty then
    [contentMessage role draft.text draft.parts []]
   else []
 else if !blank draft.text||!draft.parts.isEmpty||!draft.toolCalls.isEmpty ||
  !draft.reasoningParts.isEmpty then
  [{ contentMessage role draft.text draft.parts draft.toolCalls with
   reasoningParts := draft.reasoningParts }]
 else []

def messagesFromAnthropic (env:SandRequestEnv) (request:MessagesRequest)
 (compactionMode:Bool) : List SandInferenceMessage :=
 request.messages.flatMap (convertMessage env compactionMode (assistantToolNames request))

end CursorProxy.SandRequests
