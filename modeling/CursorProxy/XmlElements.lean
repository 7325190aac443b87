import CursorProxy.JsonValues
import CursorProxy.ToolNames

/-! `<tool_use ..>..</tool_use>` and `<tool_call ..>..</tool_call>` elements, their attributes
and their bodies. A scan of the source by index is a recursion over the text that skips what the
index jumps over. -/
namespace CursorProxy.XmlElements
open CautiousScan JsonValues ToolNames

abbrev Text := List Char
abbrev Members := List (String×JsonValue)

/-- The allow-list in the order of the set, and `serde_json::from_str`. -/
structure XmlEnv where
 allowedToolNames : Option (List String)
 fromStr : Text → Option JsonValue

/-- The `id` counts the ids drawn from the factory. -/
structure RecoveredCursorToolUse where
 id : ℕ
 originalId : Option String
 name : String
 input : Members

def quote : Char := Char.ofNat 34
def apostrophe : Char := Char.ofNat 39

/-- The characters that `trim` takes off. -/
def isWhitespace (char:Char) : Bool :=
 let code:=char.toNat
 (9 ≤ code&&code ≤ 13)||code==32||code==0x85||code==0xa0||code==0x1680 ||
  (0x2000 ≤ code&&code ≤ 0x200a)||code==0x2028||code==0x2029||code==0x202f ||
  code==0x205f||code==0x3000

def trimStart (text:Text) : Text := text.dropWhile isWhitespace

def trim (text:Text) : Text := (trimStart text).rdropWhile isWhitespace

/-- The class `\s` of the regular expressions. -/
def isSpace (char:Char) : Bool := char == ' ' || (9 ≤ char.toNat&&char.toNat ≤ 13)

def isNameStart (char:Char) : Bool := char.isAlpha||char == '_'

def isWord (char:Char) : Bool := char.isAlphanum||char == '_'

/-- `replace`. The pattern is not empty; `skip` is what is left of a match. -/
def replace (pattern replacement:Text) : ℕ → Text → Text
 | _,[]=>[]
 | skip+1,_::text=>replace pattern replacement skip text
 | 0,char::text=>
  if pattern.isPrefixOf (char::text) then
   replacement++replace pattern replacement (pattern.length-1) text
  else char::replace pattern replacement 0 text

def decodeXmlAttribute (value:Text) : Text :=
 [("&quot;".toList,[quote]),("&apos;".toList,[apostrophe]),("&lt;".toList,['<']),
  ("&gt;".toList,['>']),("&amp;".toList,['&'])].foldl (fun value entity=>replace entity.1 entity.2 0 value) value

/-- A match of the attribute expression in front, and the text after it. No shorter
name or space can match where the longest does not. -/
def matchAttribute : Text → Option (Text×Text×Text)
 | []=>none
 | char::text=>
  if isNameStart char then
   let isName:=fun char=>isWord char||char == ':' || char == '.' || char == '-'
   match (text.dropWhile isName).dropWhile isSpace with
   | []=>none
   | equals::text'=>
    match text'.dropWhile isSpace with
    | []=>none
    | opening::value=>
     if equals == '=' && (opening==quote||opening==apostrophe) then
      match value.dropWhile (fun char=>char != opening) with
      | []=>none
      | _::after=>
       some (char::text.takeWhile isName,value.takeWhile (fun char=>char != opening),
        after)
     else none
  else none

def parseXmlAttributes : ℕ → Text → List (String×String)
 | _,[]=>[]
 | skip+1,_::text=>parseXmlAttributes skip text
 | 0,char::text=>
  match matchAttribute (char::text) with
  | some (name,value,after)=>
   (String.ofList name,String.ofList (decodeXmlAttribute value)) ::
    parseXmlAttributes (text.length-after.length) text
  | none=>parseXmlAttributes 0 text

def attrValue (attrs:List (String×String)) (name:String) : Option String :=
 attrs.reverse.lookup name

inductive XmlToolKind where
 | toolUse
 | toolCall
 deriving DecidableEq

def XmlToolKind.openTag : XmlToolKind → Text
 | .toolUse => "<tool_use".toList
 | .toolCall => "<tool_call".toList

def XmlToolKind.closeTag : XmlToolKind → Text
 | .toolUse => "</tool_use>".toList
 | .toolCall => "</tool_call>".toList

def xmlTagOpenAt (rest openTag:Text) : Bool :=
 openTag.isPrefixOf rest &&
  match rest.drop openTag.length with
  | char::_=>
   if ['>','/',' ','\t','\n','\r'].contains char then true
   else !(char.isAlphanum||char == '_' || char == '-')
  | []=>false

/-- From the inside of an element at some depth to its close tag. -/
def scanClose (openTag closeTag:Text) : ℕ → ℕ → Text → Option ℕ
 | _,_,[]=>none
 | skip+1,depth,_::text=>(scanClose openTag closeTag skip depth text).map (· + 1)
 | 0,depth,char::text=>
  if closeTag.isPrefixOf (char::text) then
   if depth=1 then some 0
   else (scanClose openTag closeTag (closeTag.length-1) (depth-1) text).map (· + 1)
  else if xmlTagOpenAt (char::text) openTag then
   (scanClose openTag closeTag (openTag.length-1) (depth+1) text).map (· + 1)
  else (scanClose openTag closeTag 0 depth text).map (· + 1)

def findMatchingNamedClose (buffer openTag closeTag:Text) : Option ℕ :=
 if xmlTagOpenAt buffer openTag then
  (find ['>'] buffer).bind fun openGt=>
   (scanClose openTag closeTag 0 1 (buffer.drop (openGt+1))).map (· + (openGt+1))
 else none

def earlierStart : Option ℕ → Option ℕ → Option (ℕ×XmlToolKind)
 | some useAt,some callAt=>
  if useAt ≤ callAt then some (useAt,.toolUse) else some (callAt,.toolCall)
 | some useAt,none=>some (useAt,.toolUse)
 | none,some callAt=>some (callAt,.toolCall)
 | none,none=>none

def nextXmlToolStart (buffer:Text) : Option (ℕ×XmlToolKind) :=
 earlierStart (find XmlToolKind.toolUse.openTag buffer) (find XmlToolKind.toolCall.openTag buffer)

def splitTaggedElement (raw:Text) (kind:XmlToolKind) : Option (Text×Text) :=
 if kind.openTag.isPrefixOf raw&&kind.closeTag.isSuffixOf raw then
  (find ['>'] raw).map fun gt=>
   ((raw.take gt).drop kind.openTag.length,(raw.take (raw.length-kind.closeTag.length)).drop (gt+1))
 else none

def insertMember (key:String) (value:JsonValue) : Members → Members
 | []=>[(key,value)]
 | (other,kept)::members=>
  if key<other then (key,value)::(other,kept)::members
  else if key=other then (key,value)::members
  else (other,kept)::insertMember key value members

def parseJsonObject (env:XmlEnv) (raw:Text) : Option Members :=
 match env.fromStr (trim raw) with
 | some (.object members)=>some members
 | _=>none

/-- The loop over the parameter elements; without a name an object is the whole input. -/
def parameterTags (env:XmlEnv) : ℕ → Text → Members → Bool → Option Members
 | _,[],members,found=>if found then some members else none
 | skip+1,_::body,members,found=>parameterTags env skip body members found
 | 0,char::body,members,found=>
  let openTag := "<parameter".toList
  let closeTag := "</parameter>".toList
  if openTag.isPrefixOf (char::body) then
   if xmlTagOpenAt (char::body) openTag then
    (findMatchingNamedClose (char::body) openTag closeTag).bind fun closeAt=>
     let elem:=(char::body).take (closeAt+closeTag.length)
     (find ['>'] elem).bind fun gt=>
      let attrs:=parseXmlAttributes 0 ((elem.take gt).drop openTag.length)
      let raw:=trim ((elem.take (elem.length-closeTag.length)).drop (gt+1))
      let value:=(env.fromStr raw).getD (.string (String.ofList raw))
      let skip:=closeAt+closeTag.length-1
      match (attrValue attrs "name").filter (· != ""),value with
      | some name,value=>
       parameterTags env skip body (insertMember name value members) true
      | none, .object object=>some object
      | none,value=>
       parameterTags env skip body (insertMember "input" value members) true
   else parameterTags env (openTag.length-1) body members found
  else parameterTags env 0 body members found

def parseParameterTags (env:XmlEnv) (body:Text) : Option Members :=
 parameterTags env 0 body [] false

def toolCallInputFromObject (object:Members) (name:Option String) : Option String×Members :=
 let named :=
  match name.filter (· != ""),object.lookup "name" with
  | none,some (.string value)=>if value != "" then some value else name
  | _,_=>name
 match object.lookup "arguments" <|> object.lookup "parameters" with
 | some (.object members)=>(named,members)
 | some other=>(named,[("input",other)])
 | none=>(named,object.filter fun member=>member.1 != "name")

/-- The name is the given one, or else the one found in the body. -/
def parseToolCallBody (env:XmlEnv) (body:Text) (name:Option String) : Option (Option String×Members) :=
 let trimmed:=trim body
 if trimmed.isEmpty then some (name,[])
 else
  match parseJsonObject env trimmed,trimmed with
  | some object,_=>some (toolCallInputFromObject object name)
  | none,[]=>none
  | none,char::text=>
   if isNameStart char then
    let isName:=fun char=>isWord char||char == '.' || char == '-'
    let named:=(name.filter (· != "")).getD (String.ofList (char::text.takeWhile isName))
    let rest:=trim ((text.dropWhile isName).dropWhile isSpace)
    if rest.isEmpty then some (some named,[])
    else
     match parseJsonObject env rest with
     | some object=>some (toolCallInputFromObject object (some named))
     | none=>(parseParameterTags env rest).map fun members=>(some named,members)
   else none

def parseToolUse (env:XmlEnv) (id:ℕ) (raw:Text) : Option RecoveredCursorToolUse := do
 let (attrsStr,body) ← splitTaggedElement raw .toolUse
 let attrs:=parseXmlAttributes 0 attrsStr
 let name ← attrValue attrs "name"
 let originalId:=(attrValue attrs "id").filter (· != "")
 let name ← canonicalizeAllowedToolName env.allowedToolNames name
 let trimmed:=trim body
 let input ←
  if trimmed.isEmpty then some []
  else parseJsonObject env trimmed <|> parseParameterTags env trimmed
 some ⟨id,originalId,name,input⟩

def parseToolCall (env:XmlEnv) (id:ℕ) (raw:Text) : Option RecoveredCursorToolUse := do
 let (attrsStr,body) ← splitTaggedElement raw .toolCall
 let attrs:=parseXmlAttributes 0 attrsStr
 let (name,input) ←
  parseToolCallBody env (trim body) ((attrValue attrs "name").filter (· != ""))
 let name ← name.filter (· != "")
 let name ← canonicalizeAllowedToolName env.allowedToolNames name
 some ⟨id,none,name,input⟩

def parseXmlTool (env:XmlEnv) (id:ℕ) (raw:Text) : XmlToolKind → Option RecoveredCursorToolUse
 | .toolUse=>parseToolUse env id raw
 | .toolCall=>parseToolCall env id raw

end CursorProxy.XmlElements
