import CursorProxy.SandRequests

namespace CursorProxy.KimiRequests
open JsonValues
open SandRequests (Message str)

structure MessagesRequest where
 model : Option String
 maxTokens : Option ℕ
 messages : List Message
 extra : JsonValue

structure ImageSource where
 mediaType : String
 data : String
 sourceType : String

inductive ContentBlock where
 | text (text:String)
 | image (source:ImageSource)
 | toolUse (id name:String) (input:JsonValue)
 | toolResult (toolUseId:String) (content:JsonValue) (isError:Option Bool)
 | thinking (thinking:String) (signature:Option String)

/-- `KimiUserContentPart` and `KimiToolResultPart`. -/
inductive Part where
 | text (text:String)
 | imageUrl (url:String)

structure ToolCall where
 id : String
 name : String
 arguments : String

inductive KimiMessage where
 | system (content:String)
 | user (content:JsonValue)
 | assistant (content reasoning:Option String) (toolCalls:Option (List ToolCall))
 | tool (toolCallId:String) (content:JsonValue)

inductive KimiToolChoice where
 | auto
 | none
 | required
 | function (name:String)
deriving DecidableEq

structure KimiTool where
 name : String
 description : Option String
 parameters : JsonValue

structure KimiChatRequest where
 model : String
 messages : List KimiMessage
 tools : Option (List KimiTool)
 toolChoice : Option KimiToolChoice
 stream : Bool
 includeUsage : Bool
 maxTokens : ℕ
 reasoningEffort : Option String
 thinking : Option String
 promptCacheKey : Option String

def parseImage (source:JsonValue) : ImageSource :=
 let sourceType:=(str source "type").getD "base64"
 { mediaType := (str source "media_type").getD "image/png"
   sourceType
   data := if sourceType = "url" then (str source "url").getD ""
    else (str source "data").getD "" }

def parseContentBlock (missing value:JsonValue) : Option ContentBlock :=
 match str value "type" with
 | some "text" => some (.text ((str value "text").getD ""))
 | some "image" => (value.get "source").map fun source=>.image (parseImage source)
 | some "tool_use" => some (.toolUse ((str value "id").getD "") ((str value "name").getD "")
   ((value.get "input").getD missing))
 | some "tool_result" => some (.toolResult ((str value "tool_use_id").getD "")
   ((value.get "content").getD (.string "")) ((value.get "is_error").bind JsonValue.asBool))
 | some "thinking" => some (.thinking ((str value "thinking").getD "")
   (str value "signature"))
 | _=>none

def normalizeContent (missing:JsonValue) : JsonValue → List ContentBlock
 | .string text=>[.text text]
 | .array items=>items.filterMap (parseContentBlock missing)
 | _=>[]

def imageSourceToUrl (source:ImageSource) : String :=
 if source.sourceType = "url" then source.data
 else "data:"++source.mediaType++";base64,"++source.data

def imageBlockToUrl (block:JsonValue) : String :=
 let field key:=(member key (block.get "source")).bind JsonValue.asStr
 if (field "type").getD "base64" = "url" then (field "url").getD ""
 else "data:"++(field "media_type").getD "image/png"++";base64,"++(field "data").getD ""

def Part.toJson : Part → JsonValue
 | .text value=>.object [("text",.string value)]
 | .imageUrl url=>.object [("image_url",.object [("url",.string url)])]

def Part.asText : Part → Option String
 | .text value=>some value
 | .imageUrl _=>none

def flushBuffer (buffer:List Part) : List KimiMessage :=
 if buffer.isEmpty then []
 else if buffer.all fun part=>part.asText.isSome then
  [.user (.string (String.join (buffer.filterMap Part.asText)))]
 else [.user (.array (buffer.map Part.toJson))]

def errorMark : String := "[tool execution error]\n"

def toolResultPart (block:JsonValue) : Option Part :=
 match str block "type" with
 | some "text" => some (.text ((str block "text").getD ""))
 | some "image" => some (.imageUrl (imageBlockToUrl block))
 | some other=>some (.text ("[unsupported content block omitted: "++other++"]"))
 | none=>none

def toolResultContent (content:JsonValue) (isError:Option Bool) : JsonValue :=
 let mark:=if isError.getD false then errorMark else ""
 match content with
 | .string text=>.string (mark++text)
 | .array items=>
  match (if mark = "" then [] else [.text mark])++items.filterMap toolResultPart with
  | [.text text]=>.string text
  | parts=>.array (parts.map Part.toJson)
 | _=>.string mark

def pushUserMessages (buffer:List Part) : List ContentBlock → List KimiMessage
 | []=>flushBuffer buffer
 | .text text::blocks=>pushUserMessages (buffer++[.text text]) blocks
 | .image source::blocks=>
  pushUserMessages (buffer++[.imageUrl (imageSourceToUrl source)]) blocks
 | .toolResult id content isError::blocks=>flushBuffer buffer++
   .tool id (toolResultContent content isError)::pushUserMessages [] blocks
 | _::blocks=>pushUserMessages buffer blocks

def filled (text:String) : Option String := if text = "" then none else some text

def ContentBlock.asText : ContentBlock → Option String
 | .text value=>filled value
 | _=>none

def ContentBlock.asThinking : ContentBlock → Option String
 | .thinking value _=>filled value
 | _=>none

section
variable (toJson:JsonValue → String)

/-- The arguments are written by `serde_json::to_string`. -/
def ContentBlock.asCall : ContentBlock → Option ToolCall
 | .toolUse id name input=>some ⟨id,name,toJson input⟩
 | _=>none

def unlessEmpty {α β:Type} (items:List α) (value:β) : Option β :=
 if items.isEmpty then none else some value

def pushAssistantMessage (blocks:List ContentBlock) : List KimiMessage :=
 let texts:=blocks.filterMap ContentBlock.asText
 let thinking:=blocks.filterMap ContentBlock.asThinking
 let calls:=blocks.filterMap (ContentBlock.asCall toJson)
 if texts.isEmpty&&calls.isEmpty&&thinking.isEmpty then []
 else [.assistant (some (String.join texts))
  (unlessEmpty thinking (String.intercalate "\n\n" thinking)) (unlessEmpty calls calls)]

def flattenSystemText (system:Option JsonValue) : Option String :=
 let joined (texts:List String):=unlessEmpty texts (String.intercalate "\n\n" texts)
 match system with
 | some (.string text)=>joined [text]
 | some (.array items)=>joined ((items.filterMap fun item=>str item "text").filter fun text=>
   !"x-anthropic-billing-header:".toList.isPrefixOf text.toList)
 | _=>none

def pushMessage (message:Message) : Except String (List KimiMessage) :=
 let blocks:=normalizeContent (.object []) message.content
 match message.role with
 | "user" => .ok (pushUserMessages [] blocks)
 | "assistant" => .ok (pushAssistantMessage toJson blocks)
 | other=>.error ("unexpected message role: "++other)

def pushTurns : List Message → Except String (List (List KimiMessage))
 | []=>.ok []
 | message::messages=>
  match pushMessage toJson message with
  | .error error=>.error error
  | .ok turn=>(pushTurns messages).map (turn :: ·)

def buildMessages (req:MessagesRequest) : Except String (List KimiMessage) :=
 (pushTurns toJson req.messages).map fun turns=>
  (flattenSystemText (req.extra.get "system")).toList.map .system++turns.flatten

def kimiDefaultModel : String := "kimi-for-coding"

/-- Every alias stands for the default model, and so does any other name. -/
def resolveModel (_model:String) : String := kimiDefaultModel

def clampMaxTokens : Option ℕ → ℕ
 | some value=>if 0<value then min value 32000 else 32000
 | none=>32000

def readEffort (req:MessagesRequest) : Except String (Option String) :=
 match req.extra.get "output_config" with
 | some (.object members)=>
  match (JsonValue.object members).get "effort" with
  | some (.string effort)=>
   if effort∈["low","fast","minimal","medium","high","xhigh","max"] then .ok (some effort)
   else .error ("Invalid output_config.effort: "++effort)
  | some .null | none=>.ok none
  | some _=>.error "Invalid output_config.effort: must be a string"
 | _=>.ok none

def mapReasoningEffort : Option String → String
 | some "max" | some "xhigh" => "high"
 | some effort=>effort
 | none => "medium"

def mapToolChoice (choice:JsonValue) : KimiToolChoice :=
 match str choice "type" with
 | some "auto" => .auto
 | some "none" => .none
 | some "any" => .required
 | some "tool" => ((str choice "name").map .function).getD .required
 | _=>.auto

def readToolChoice (req:MessagesRequest) : Option KimiToolChoice :=
 match req.extra.get "tool_choice" with
 | some (.object members)=>some (mapToolChoice (.object members))
 | some (.string "auto")=>some .auto
 | some (.string "none")=>some .none
 | some (.string "any") | some (.string "required")=>some .required
 | some (.string _)=>some .auto
 | _=>none

def readTools (req:MessagesRequest) : List KimiTool :=
 match req.extra.get "tools" with
 | some (.array tools)=>tools.map fun tool=>
  ⟨(str tool "name").getD "",str tool "description",(tool.get "input_schema").getD (.object [])⟩
 | _=>[]

def translateRequest (req:MessagesRequest) (sessionId:Option String) : Except String KimiChatRequest :=
 let model:=resolveModel (req.model.getD kimiDefaultModel)
 if model≠kimiDefaultModel then .error ("Model not allowed: "++model)
 else (buildMessages toJson req).bind fun messages=>(readEffort req).map fun effort=>
  { model,messages
    tools := unlessEmpty (readTools req) (readTools req)
    toolChoice := (readToolChoice req).filter (· ≠ .auto)
    stream := true
    includeUsage := true
    maxTokens := clampMaxTokens req.maxTokens
    reasoningEffort := some (mapReasoningEffort effort)
    thinking := some "enabled"
    promptCacheKey := sessionId }

end

/-- A unit variant of an untagged enum is null. -/
def KimiToolChoice.toJson : KimiToolChoice → JsonValue
 | .auto | .none | .required=>.null
 | .function name=>
  .object [("type",.string "function"),("function",.object [("name",.string name)])]

def optional (key:String) (value:Option JsonValue) : List (String×JsonValue) :=
 value.toList.map fun value=>(key,value)

def ToolCall.toJson (call:ToolCall) : JsonValue :=
 .object [("id",.string call.id),("type",.string "function"),("function",
  .object [("name",.string call.name),("arguments",.string call.arguments)])]

def KimiMessage.toJson : KimiMessage → JsonValue
 | .system content=>.object [("role",.string "system"),("content",.string content)]
 | .user content=>.object [("role",.string "user"),("content",content)]
 | .assistant content reasoning calls=>.object (("role",.string "assistant") ::
   (optional "content" (content.map .string) ++
   optional "reasoning_content" (reasoning.map .string) ++
   optional "tool_calls" (calls.map fun calls=>.array (calls.map ToolCall.toJson))))
 | .tool id content=>
  .object [("role",.string "tool"),("tool_call_id",.string id),("content",content)]

def KimiTool.toJson (tool:KimiTool) : JsonValue :=
 .object [("type",.string "function"),("function",.object (("name",.string tool.name) ::
  (optional "description" (tool.description.map .string)++[("parameters",tool.parameters)])))]

def KimiChatRequest.toJson (req:KimiChatRequest) : JsonValue :=
 .object ([("model",.string req.model),("messages",.array (req.messages.map KimiMessage.toJson))] ++
  optional "tools" (req.tools.map fun tools=>.array (tools.map KimiTool.toJson)) ++
  optional "tool_choice" (req.toolChoice.map KimiToolChoice.toJson) ++
  [("stream",.bool req.stream),
   ("stream_options",.object [("include_usage",.bool req.includeUsage)]),
   ("max_tokens",.number (toString req.maxTokens))] ++
  optional "reasoning_effort" (req.reasoningEffort.map .string) ++
  optional "thinking" (req.thinking.map fun kind=>.object [("type",.string kind)]) ++
  optional "prompt_cache_key" (req.promptCacheKey.map .string))

/-- What a user says: parts, and results of tools. -/
inductive Piece where
 | part (part:Part)
 | result (toolUseId:String) (parts:List Part)

/-- A text stands for one block of it. -/
def items : JsonValue → List JsonValue
 | .string text=>[.object [("type",.string "text"),("text",.string text)]]
 | .array items=>items
 | _=>[]

/-- The error mark, then the texts and images. -/
def resultParts (block:JsonValue) : List Part :=
 (if (block.get "is_error").bind JsonValue.asBool=some true then [.text errorMark] else []) ++
  (items ((block.get "content").getD (.string ""))).filterMap toolResultPart

def userPiece (block:JsonValue) : Option Piece :=
 match str block "type" with
 | some "text" => some (.part (.text ((str block "text").getD "")))
 | some "image" => (block.get "source").map fun _=>.part (.imageUrl (imageBlockToUrl block))
 | some "tool_result" => some (.result ((str block "tool_use_id").getD "") (resultParts block))
 | _=>none

/-- Texts as one string, or the parts one by one. -/
def Shows (parts:List Part) (content:Option JsonValue) : Prop :=
 (∃ texts,parts=texts.map .text ∧ content=some (.string (String.join texts))) ∨
  content=some (.array (parts.map Part.toJson))

/-- Each message of the wire has the next pieces, or the next result. -/
inductive Carries : List Piece → List JsonValue → Prop
 | nil : Carries [] []
 | parts {parts:List Part} {wire:JsonValue} {pieces:List Piece} {wires:List JsonValue} :
  str wire "role" = some "user" → Shows parts (wire.get "content") → Carries pieces wires →
   Carries (parts.map .part++pieces) (wire::wires)
 | result {id:String} {parts:List Part} {wire:JsonValue} {pieces:List Piece}
  {wires:List JsonValue} : str wire "role" = some "tool" →
   str wire "tool_call_id" = some id → Shows parts (wire.get "content") →
   Carries pieces wires → Carries (.result id parts::pieces) (wire::wires)

def saidTexts (kind:String) (blocks:List JsonValue) : List String :=
 blocks.filterMap fun block=>
  if str block "type" = some kind then filled ((str block kind).getD "") else none

/-- An id, a name and an input. -/
def saidCall (block:JsonValue) : Option (Option String×Option String×Option JsonValue) :=
 if str block "type" = some "tool_use" then
  some (some ((str block "id").getD ""),some ((str block "name").getD ""),
   some ((block.get "input").getD (.object [])))
 else none

section
variable (toJson:JsonValue → String) (parse:String → Option JsonValue)

def readCall (call:JsonValue) : Option String×Option String×Option JsonValue :=
 let function:=(call.get "function").getD .null
 (str call "id",str function "name",(str function "arguments").bind parse)

def CarriesSaid (blocks wires:List JsonValue) : Prop :=
 let texts:=saidTexts "text" blocks
 let thinking:=saidTexts "thinking" blocks
 let calls:=blocks.filterMap saidCall
 if texts=[] ∧ thinking=[] ∧ calls=[] then wires=[]
 else ∃ wire,wires=[wire] ∧ str wire "role" = some "assistant" ∧ str wire "content" = some (String.join texts) ∧
  str wire "reasoning_content" = unlessEmpty thinking (String.intercalate "\n\n" thinking) ∧
  (((wire.get "tool_calls").bind JsonValue.asArray).getD []).map (readCall parse)=calls

def TurnKept (message:Message) (wires:List JsonValue) : Prop :=
 (message.role = "user" → Carries ((items message.content).filterMap userPiece) wires) ∧
  (message.role = "assistant" → CarriesSaid parse (items message.content) wires)

/-- After the system prompt come the turns in their order. -/
def ConversationKept (req:MessagesRequest) (wire:JsonValue) : Prop :=
 ∃ system turns,wire.get "messages" = some (.array (system++turns.flatten)) ∧
  (∀ message∈system,str message "role" = some "system") ∧ List.Forall₂ (TurnKept parse) req.messages turns

/-- What the client asks of the model, by default nothing. -/
def constraint (req:MessagesRequest) : KimiToolChoice := (readToolChoice req).getD .auto

/-- No request with another constraint has the same choice on the wire. -/
def ChoiceExpressed (req:MessagesRequest) (wire:JsonValue) : Prop :=
 ∀ other session out,translateRequest toJson other session=.ok out →
  constraint other≠constraint req → out.toJson.get "tool_choice"≠wire.get "tool_choice"

def Kept (req:MessagesRequest) (wire:JsonValue) : Prop :=
 ConversationKept parse req wire ∧ ChoiceExpressed toJson req wire

def ReadBack (blocks:List JsonValue) : Prop :=
 ∀ call∈blocks.filterMap saidCall,call.2.2.bind (fun input=>parse (toJson input))=call.2.2

def Readable (req:MessagesRequest) : Prop :=
 ∀ message∈req.messages,ReadBack toJson parse (items message.content)

end

variable {buffer:List Part} {pieces:List Piece} {wires:List JsonValue}

theorem flushBuffer_carries (h:Carries pieces wires) :
  Carries (buffer.map .part++pieces) ((flushBuffer buffer).map KimiMessage.toJson++wires):=by
 unfold flushBuffer
 split_ifs with hempty htexts
 · rw [List.isEmpty_iff.mp hempty]
   exact h
 · refine .parts rfl (Or.inl ⟨buffer.filterMap Part.asText,?_,rfl⟩) h
   clear hempty
   induction buffer with
   | nil=>rfl
   | cons part buffer ih=>
    obtain ⟨hpart,hbuffer⟩:=Bool.and_eq_true_iff.mp (List.all_cons ▸ htexts)
    cases part with
    | text text=>
     rw [List.filterMap_cons_some (by rfl),List.map_cons,← ih hbuffer]
    | imageUrl url=>cases hpart
 · exact .parts rfl (Or.inr rfl) h

theorem toolResultContent_shows (block:JsonValue) :
  Shows (resultParts block) (some (toolResultContent ((block.get "content").getD (.string ""))
   ((block.get "is_error").bind JsonValue.asBool))):=by
 unfold resultParts toolResultContent
 generalize (block.get "content").getD (.string "")=content
 generalize (block.get "is_error").bind JsonValue.asBool=isError
 obtain ⟨marks,hparts,hmark,hjoin⟩ : ∃ marks,
   (if isError=some true then [Part.text errorMark] else [])=marks.map .text ∧
   (if isError.getD false then errorMark else "")=String.join marks ∧
   (if String.join marks = "" then [] else [Part.text (String.join marks)]) =
    marks.map .text:=by
  by_cases hfailed:isError=some true
  · exact ⟨[errorMark],if_pos hfailed,by rw [hfailed]; rfl,if_neg (by decide)⟩
  · refine ⟨[],if_neg hfailed,?_,if_pos rfl⟩
    cases isError with
    | none=>rfl
    | some failed=>
     cases failed with
     | false=>rfl
     | true=>exact absurd rfl hfailed
 rw [hparts,hmark]
 cases content with
 | string text=>
  refine Or.inl ⟨marks++[text],?_,?_⟩
  · rw [List.map_append]
    rfl
  · simp [String.join_append]
 | array blocks=>
  dsimp only [items]
  rw [hjoin]
  split
  · rename_i text hone
    exact Or.inl ⟨[text],hone,rfl⟩
  · exact Or.inr rfl
 | _=>exact Or.inl ⟨marks,List.append_nil _,rfl⟩

theorem imageSource_url {block source:JsonValue} (h:block.get "source" = some source) :
  imageSourceToUrl (parseImage source)=imageBlockToUrl block:=by
 have hfield:∀ key,(member key (block.get "source")).bind JsonValue.asStr = str source key := fun key=>by rw [h]; rfl
 unfold imageSourceToUrl parseImage imageBlockToUrl
 simp only [hfield]
 by_cases hurl:(str source "type").getD "base64" = "url"
 · rw [if_pos hurl,if_pos hurl,if_pos hurl]
 · rw [if_neg hurl,if_neg hurl,if_neg hurl]

/-- The pieces are those of the blocks as they are parsed. -/
theorem userPiece_parsed (missing block:JsonValue) : userPiece block=match parseContentBlock missing block with
      | some (.text text)=>some (.part (.text text))
      | some (.image source)=>some (.part (.imageUrl (imageSourceToUrl source)))
      | some (.toolResult id _ _)=>some (.result id (resultParts block))
      | _=>none:=by
 unfold userPiece parseContentBlock
 generalize str block "type" = kind
 split
 · rfl
 · cases hsource:block.get "source" with
   | none=>rfl
   | some source=>
    exact congrArg (fun url=>some (Piece.part (.imageUrl url))) (imageSource_url hsource).symm
 · rfl
 · grind

theorem toolResult_parsed {missing block content:JsonValue} {id:String} {isError:Option Bool}
  (h:parseContentBlock missing block=some (.toolResult id content isError)) :
  content=(block.get "content").getD (.string "") ∧ isError=(block.get "is_error").bind JsonValue.asBool:=by
 unfold parseContentBlock at h
 split at h
 case h_4=>
  obtain ⟨-,rfl,rfl⟩:=ContentBlock.toolResult.inj (Option.some.inj h)
  exact ⟨rfl,rfl⟩
 case h_2=>
  obtain ⟨_,-,h⟩:=Option.map_eq_some_iff.mp h
  cases h
 all_goals cases h

theorem push_carries (missing:JsonValue) (blocks:List JsonValue) (buffer:List Part) :
  Carries (buffer.map .part++blocks.filterMap userPiece) ((pushUserMessages buffer
   (blocks.filterMap (parseContentBlock missing))).map KimiMessage.toJson):=by
 induction blocks generalizing buffer with
 | nil=>simpa [pushUserMessages] using @flushBuffer_carries buffer [] [] .nil
 | cons block blocks ih=>
  have hpart:∀ part,Carries (buffer.map .part++.part part::blocks.filterMap userPiece)
    ((pushUserMessages (buffer++[part]) (blocks.filterMap
     (parseContentBlock missing))).map KimiMessage.toJson) := fun part=>by
   simpa using ih (buffer++[part])
  rw [List.filterMap_cons,List.filterMap_cons,userPiece_parsed missing block]
  cases hblock:parseContentBlock missing block with
  | none=>exact ih buffer
  | some parsed=>
   cases parsed with
   | text text=>exact hpart _
   | image source=>exact hpart _
   | toolUse | thinking=>exact ih buffer
   | toolResult id content isError=>
    obtain ⟨rfl,rfl⟩:=toolResult_parsed hblock
    dsimp only [pushUserMessages]
    rw [List.map_append,List.map_cons]
    exact flushBuffer_carries (.result rfl rfl (toolResultContent_shows block) (ih []))

theorem normalizeContent_items (missing content:JsonValue) :
  normalizeContent missing content=(items content).filterMap (parseContentBlock missing):=by
 cases content <;> rfl

section
variable (toJson:JsonValue → String) (parse:String → Option JsonValue)

theorem texts_said (missing:JsonValue) (blocks:List JsonValue) :
  (blocks.filterMap (parseContentBlock missing)).filterMap ContentBlock.asText = saidTexts "text" blocks ∧
   (blocks.filterMap (parseContentBlock missing)).filterMap ContentBlock.asThinking =
    saidTexts "thinking" blocks:=by
 unfold saidTexts
 rw [List.filterMap_filterMap,List.filterMap_filterMap]
 constructor
 all_goals
  congr 1
  funext block
  unfold parseContentBlock
  generalize str block "type" = kind
  split
  case h_2=>cases block.get "source" <;> rfl
  case h_6=>simp_all
  all_goals rfl

theorem calls_said {blocks:List JsonValue} (hread:ReadBack toJson parse blocks) :
  ((((blocks.filterMap (parseContentBlock (.object []))).filterMap
   (ContentBlock.asCall toJson)).map ToolCall.toJson).map (readCall parse)) = blocks.filterMap saidCall:=by
 rw [List.map_map,List.filterMap_filterMap,List.map_filterMap]
 refine List.filterMap_congr fun block hmem=>?_
 have hblock:∀ call,saidCall block=some call →
   call.2.2.bind (fun input=>parse (toJson input))=call.2.2 := fun call hcall=>
  hread call (List.mem_filterMap.mpr ⟨block,hmem,hcall⟩)
 unfold saidCall at hblock ⊢
 unfold parseContentBlock
 generalize str block "type" = kind at hblock ⊢
 split
 case h_2=>cases block.get "source" <;> rfl
 case h_3=>exact congrArg some (Prod.ext rfl (Prod.ext rfl (hblock _ (if_pos rfl))))
 case h_6=>simp_all
 all_goals rfl

/-- What the reader finds in a message of the assistant. -/
theorem assistant_fields (content:String) (reasoning:Option String) (calls:Option (List ToolCall)) :
  let wire:=KimiMessage.toJson (.assistant (some content) reasoning calls)
  str wire "role" = some "assistant" ∧ str wire "content" = some content ∧ str wire "reasoning_content" = reasoning ∧
   ((wire.get "tool_calls").bind JsonValue.asArray).getD [] = (calls.getD []).map ToolCall.toJson:=by
 cases reasoning <;> cases calls <;> exact ⟨rfl,rfl,rfl,rfl⟩

theorem assistant_carries {blocks:List JsonValue} (hread:ReadBack toJson parse blocks) :
  CarriesSaid parse blocks ((pushAssistantMessage toJson
   (blocks.filterMap (parseContentBlock (.object [])))).map KimiMessage.toJson):=by
 obtain ⟨htexts,hthinking⟩:=texts_said (.object []) blocks
 have hcalls:=calls_said toJson parse hread
 unfold CarriesSaid pushAssistantMessage
 rw [htexts,hthinking]
 dsimp only
 generalize (blocks.filterMap (parseContentBlock (.object []))).filterMap
  (ContentBlock.asCall toJson)=calls at hcalls ⊢
 have hempty:blocks.filterMap saidCall=[] ↔ calls=[]:=by
  rw [← hcalls,List.map_eq_nil_iff,List.map_eq_nil_iff]
 split_ifs with hnone hsome hsome
 · rfl
 · exact absurd hnone (by simp_all)
 · exact absurd hsome (by simp_all)
 · obtain ⟨hrole,hcontent,hreasoning,hfound⟩:=assistant_fields
    (String.join (saidTexts "text" blocks)) (unlessEmpty (saidTexts "thinking" blocks)
     (String.intercalate "\n\n" (saidTexts "thinking" blocks))) (unlessEmpty calls calls)
   have hkept:(unlessEmpty calls calls).getD []=calls:=by
    cases calls <;> rfl
   refine ⟨_,rfl,hrole,hcontent,hreasoning,?_⟩
   rw [hfound,hkept,hcalls]

theorem pushMessage_kept {message:Message} {turn:List KimiMessage}
  (hread:ReadBack toJson parse (items message.content)) (h:pushMessage toJson message=.ok turn) :
  TurnKept parse message (turn.map KimiMessage.toJson):=by
 unfold pushMessage at h
 rw [normalizeContent_items] at h
 constructor
 · intro hrole
   rw [hrole] at h
   obtain rfl:=Except.ok.inj h
   exact push_carries _ _ []
 · intro hrole
   rw [hrole] at h
   obtain rfl:=Except.ok.inj h
   exact assistant_carries toJson parse hread

theorem pushTurns_kept {messages:List Message} {turns:List (List KimiMessage)}
  (hread:∀ message∈messages,ReadBack toJson parse (items message.content)) (h:pushTurns toJson messages=.ok turns) :
  List.Forall₂ (TurnKept parse) messages (turns.map (·.map KimiMessage.toJson)):=by
 induction messages generalizing turns with
 | nil=>
  obtain rfl:=Except.ok.inj h
  exact .nil
 | cons message messages ih=>
  rw [pushTurns] at h
  split at h
  · cases h
  · rename_i turn hturn
    cases hrest:pushTurns toJson messages with
    | error error=>
     rw [hrest] at h
     cases h
    | ok rest=>
     rw [hrest] at h
     obtain rfl:=Except.ok.inj h
     exact .cons (pushMessage_kept toJson parse (hread _ List.mem_cons_self) hturn)
      (ih (fun other hmem=>hread other (List.mem_cons_of_mem _ hmem)) hrest)

theorem translateRequest_ok {req:MessagesRequest} {session:Option String}
  {out:KimiChatRequest} (h:translateRequest toJson req session=.ok out) :
  ∃ turns,pushTurns toJson req.messages=.ok turns ∧ out.messages =
   (flattenSystemText (req.extra.get "system")).toList.map .system++turns.flatten ∧
   out.toolChoice=(readToolChoice req).filter (· ≠ .auto):=by
 have hmodel:¬ resolveModel (req.model.getD kimiDefaultModel)≠kimiDefaultModel :=
  not_not_intro rfl
 rw [translateRequest,if_neg hmodel] at h
 unfold buildMessages at h
 cases hturns:pushTurns toJson req.messages with
 | error error=>
  rw [hturns] at h
  cases h
 | ok turns=>
  rw [hturns] at h
  cases heffort:readEffort req with
  | error error=>
   rw [heffort] at h
   cases h
  | ok effort=>
   rw [heffort] at h
   obtain rfl:=Except.ok.inj h
   exact ⟨turns,rfl,rfl,rfl⟩

theorem conversation_kept {req:MessagesRequest} {session:Option String}
  {out:KimiChatRequest} (hread:Readable toJson parse req)
  (h:translateRequest toJson req session=.ok out) : ConversationKept parse req out.toJson:=by
 obtain ⟨turns,hturns,hmessages,-⟩:=translateRequest_ok toJson h
 refine ⟨(flattenSystemText (req.extra.get "system")).toList.map
  (KimiMessage.toJson ∘ .system),turns.map (·.map KimiMessage.toJson),?_,?_,pushTurns_kept toJson parse hread hturns⟩
 · have hwire:out.toJson.get "messages" = some (.array (out.messages.map KimiMessage.toJson)) := rfl
   rw [hwire,hmessages,List.map_append,List.map_map,List.map_flatten]
 · intro message hmem
   obtain ⟨content,-,rfl⟩:=List.mem_map.mp hmem
   rfl

theorem toJson_choice (out:KimiChatRequest) :
  out.toJson.get "tool_choice" = out.toolChoice.map KimiToolChoice.toJson:=by
 obtain ⟨model,messages,tools,choice,stream,usage,tokens,effort,thinking,key⟩:=out
 cases tools <;> cases choice <;> cases effort <;> cases thinking <;> cases key <;> rfl

/-- The choice on the wire depends on the constraint alone. -/
theorem choice_wire {req:MessagesRequest} {session:Option String} {out:KimiChatRequest}
  (h:translateRequest toJson req session=.ok out) :
  out.toJson.get "tool_choice" = ((some (constraint req)).filter (· ≠ .auto)).map KimiToolChoice.toJson:=by
 obtain ⟨-,-,-,hchoice⟩:=translateRequest_ok toJson h
 rw [toJson_choice,hchoice,constraint]
 cases readToolChoice req <;> rfl

/-- A request without messages. -/
def asking (choice:String) : MessagesRequest :=
 ⟨none,none,[],.object [("tool_choice",.string choice)]⟩

theorem asking_ok (choice:String) : ∃ out,translateRequest toJson (asking choice) none=.ok out :=
 ⟨_,rfl⟩

/-- `none` and `required` are both null. -/
theorem not_expressed {req:MessagesRequest} {session:Option String} {out:KimiChatRequest}
  (h:translateRequest toJson req session=.ok out) (hnull:constraint req=.none ∨ constraint req=.required) :
  ¬ ChoiceExpressed toJson req out.toJson:=by
 intro hexpressed
 have hwire:=choice_wire toJson h
 rcases hnull with hnull | hnull
 · obtain ⟨other,hother⟩:=asking_ok toJson "any"
   refine hexpressed _ _ _ hother (by rw [hnull]; decide) ?_
   rw [choice_wire toJson hother,hwire,hnull]
   rfl
 · obtain ⟨other,hother⟩:=asking_ok toJson "none"
   refine hexpressed _ _ _ hother (by rw [hnull]; decide) ?_
   rw [choice_wire toJson hother,hwire,hnull]
   rfl

theorem choice_expressed {req:MessagesRequest} {session:Option String} {out:KimiChatRequest}
  (h:translateRequest toJson req session=.ok out) (hnone:constraint req≠.none)
  (hrequired:constraint req≠.required) : ChoiceExpressed toJson req out.toJson:=by
 intro other session' out' hother hdiffers hsame
 rw [choice_wire toJson h,choice_wire toJson hother] at hsame
 generalize constraint req=choice at *
 generalize constraint other=choice' at *
 cases choice with
 | none=>exact hnone rfl
 | required=>exact hrequired rfl
 | auto=>
  cases choice' with
  | auto=>exact hdiffers rfl
  | none | required | function=>cases hsame
 | function name=>
  cases choice' with
  | auto | none | required=>cases hsame
  | function name'=>
   have hname:=congrArg (fun value=>((member "function" value).bind (str · "name"))) hsame
   exact hdiffers (congrArg KimiToolChoice.function (Option.some.inj hname))

/-- With everything on the wire, what is lost is a tool choice that is null. -/
theorem kept_iff {req:MessagesRequest} {session:Option String} {out:KimiChatRequest}
    (hread:Readable toJson parse req) (h:translateRequest toJson req session=.ok out) :
    Kept toJson parse req out.toJson ↔ constraint req≠.none ∧ constraint req≠.required:=by
  constructor
  · rintro ⟨-,hexpressed⟩
    exact ⟨fun hnone=>not_expressed toJson h (Or.inl hnone) hexpressed,
      fun hrequired=>not_expressed toJson h (Or.inr hrequired) hexpressed⟩
  · exact fun ⟨hnone,hrequired⟩=>⟨conversation_kept toJson parse hread h,
      choice_expressed toJson h hnone hrequired⟩

end

def printed (_value:JsonValue) : String := "\x7b\x7d"

def readBack (text:String) : Option JsonValue :=
 if text = "\x7b\x7d" then some (.object []) else none

/-- A tool is used and answers. -/
def sample : MessagesRequest :=
 ⟨some "haiku",some 10,
  [⟨"assistant",.array [.object [("type",.string "tool_use"),("id",.string "t1"),
   ("name",.string "run"),("input",.object [])]]⟩,
  ⟨"user",.array [.object [("type",.string "tool_result"),("tool_use_id",.string "t1"),("content",.string "done")]]⟩],
  .object [("tool_choice",.string "auto")]⟩

theorem sample_readable : Readable printed readBack sample :=
 List.forall_mem_cons.mpr ⟨List.forall_mem_singleton.mpr rfl,List.forall_mem_singleton.mpr nofun⟩

theorem kept_iff_sample : ∃ out,translateRequest printed sample none=.ok out ∧
    (Kept printed readBack sample out.toJson ↔ constraint sample≠.none ∧ constraint sample≠.required) :=
  ⟨_,rfl,kept_iff printed readBack sample_readable rfl⟩

theorem required_lost : ∃ out,translateRequest printed (asking "any") none=.ok out ∧
    out.toJson.get "tool_choice" = some .null ∧ ¬ Kept printed readBack (asking "any") out.toJson :=
  ⟨_,rfl,rfl,fun hkept=>@not_expressed printed (asking "any") none _ rfl (Or.inr rfl) hkept.2⟩

end CursorProxy.KimiRequests
