import CursorProxy.DeleteCommands
import CursorProxy.FieldMaps
import CursorProxy.McpArgValues

/-! Each family of tools has its fields adapted to the schema that the client advertises. -/
namespace CursorProxy.ClientInputs
open CursorProxy.JsonValues XmlElements ToolNames CautiousScan FieldMaps DeleteCommands McpArgValues
 IntegerDoubles SseEvents

/-- The reader of encoded values gives a text shorter than its encoding. -/
structure AdaptEnv extends McpEnv where
 decode_shorter : ∀ raw text,decode raw=some (.stringValue text) → (bytesOf text.toList).length<raw.length

def hasNonemptyStr (obj:Members) (key:String) : Bool :=
 ((get key obj).bind JsonValue.asStr).any (· != "")

def copyAliasIfMissing (canonical:String) (aliases:List String) (obj:Members) : Members :=
 if (get canonical obj).isSome then obj
 else
  match aliases.findSome? fun field=>get field obj with
  | some value=>insert canonical value obj
  | none=>obj

def retainObjectKeys (allowed:List String) (obj:Members) : Members :=
 retain allowed.contains obj

def insertIfEmpty (key:String) (value:Option JsonValue) (obj:Members) : Members :=
 if hasNonemptyStr obj key then obj
 else
  match value with
  | some value=>insert key value obj
  | none=>obj

def renameField (key other:String) (obj:Members) : Members :=
 match get other obj with
 | some value=>insert key value (remove other obj)
 | none=>obj

def mapObjects (adapt:Members → Members) : List JsonValue → List JsonValue
 | []=>[]
 | .object item::items=>.object (adapt item)::mapObjects adapt items
 | item::items=>item::mapObjects adapt items

def adaptItems (key:String) (adapt:Members → Members) (obj:Members) : Members :=
 match get key obj with
 | some (.array items)=>insert key (.array (mapObjects adapt items)) obj
 | _=>obj

def parseI64 (text:Text) : Option ℤ :=
 let signed : Bool×Text:=match text with
  | '-' :: digits=>(true,digits)
  | '+' :: digits=>(false,digits)
  | digits=>(false,digits)
 (digitsToNat signed.2).bind fun size=>
  let n : ℤ:=if signed.1 then -(size:ℤ) else size
  if -2 ^ 63 ≤ n ∧ n<2 ^ 63 then some n else none

section
variable (env:AdaptEnv)

def asF64 : JsonValue → Option F64
 | .number text=>some (env.asF64 text)
 | _=>none

/-- The bounds are `i64::MIN as f64` and `i64::MAX as f64`, and the cast saturates. -/
def coerceWholeInteger (value:JsonValue) : Option JsonValue :=
 match value.asU64 with
 | some u=>some (.number (u:ℤ).repr)
 | none=>
  match value.asI64 with
  | some i=>some (.number i.repr)
  | none=>
   match asF64 env value with
   | some number=>
    number.whole.bind fun n=>
     if -2 ^ 63 ≤ n ∧ n ≤ 2 ^ 63 then some (.number (min n (2 ^ 63-1)).repr) else none
   | none=>value.asStr.bind fun text=>
    (parseI64 (trim text.toList)).map fun n=>.number n.repr

def coerceIntegerField (key:String) (obj:Members) : Members :=
 match get key obj with
 | some value=>
  match coerceWholeInteger env value with
  | some integer=>insert key integer obj
  | none=>remove key obj
 | none=>obj

def coerceIntegerFields (keys:List String) (obj:Members) : Members :=
 keys.foldl (fun obj key=>coerceIntegerField env key obj) obj

/-- A field whose integer is out of range is left out. -/
def dropField (key:String) (invalid:JsonValue → Bool) (obj:Members) : Members :=
 if (get key obj).any invalid then remove key obj else obj

def normalizeReadRange (obj:Members) : Members :=
 dropField "limit" (fun value=>value.asI64.any (· ≤ 0))
  (dropField "offset" (fun value=>value.asI64.any (· < 0)) obj)

def coerceTimeoutValue (value:JsonValue) : Option JsonValue :=
 (coerceWholeInteger env value).bind fun value=>
  ((value.asI64.filter (0 ≤ ·)).map fun timeout=>.number timeout.repr) <|>
   value.asU64.map fun timeout=>.number (timeout:ℤ).repr

def withinBound (bound:ℕ) (number:F64) : Bool :=
 let (size,scale):=number.significand
 number.isFinite&&(!number.negative||size==0) &&
  decide (size*2 ^ scale ≤ bound*2 ^ 1075)

def validTimeout (timeout:JsonValue) : Bool :=
 timeout.asU64.any (· ≤ 600000) ||
  timeout.asI64.any (fun timeout=>decide (0 ≤ timeout ∧ timeout ≤ 600000)) ||
  (asF64 env timeout).any (withinBound 600000)

theorem decodedText_shorter {raw:List UInt8} {text:String}
 (h:decodeProtobufValueBytes env.toMcpEnv raw=some (.string text)) : (bytesOf text.toList).length<raw.length:=by
 unfold decodeProtobufValueBytes at h
 split_ifs at h
 obtain ⟨value,hvalue,hjson⟩:=Option.bind_eq_some_iff.mp h
 have htext:value=.stringValue text:=by
  cases value with
  | stringValue text'=>
   rw [prostValueToJson] at hjson
   rw [JsonValue.string.inj (Option.some.inj hjson)]
  | numberValue number=>
   rw [prostValueToJson,jsonNumberFromF64] at hjson
   split_ifs at hjson
   split at hjson
   · split_ifs at hjson <;> exact nomatch hjson
   · exact nomatch hjson
  | structValue fields=>
   rw [prostValueToJson] at hjson
   obtain ⟨members,-,hmembers⟩:=Option.map_eq_some_iff.mp hjson
   exact nomatch hmembers
  | listValue values=>
   rw [prostValueToJson] at hjson
   obtain ⟨items,-,hitems⟩:=Option.map_eq_some_iff.mp hjson
   exact nomatch hitems
  | unset=>rw [prostValueToJson] at hjson; exact nomatch hjson
  | nullValue=>rw [prostValueToJson] at hjson; exact nomatch hjson
  | boolValue flag=>rw [prostValueToJson] at hjson; exact nomatch hjson
 rw [htext] at hvalue
 exact env.decode_shorter raw text hvalue

def sanitizeSpawnString (raw:Text) : Option Text :=
 match _h:decodeProtobufValueBytes env.toMcpEnv (bytesOf raw) with
 | some (.string text)=>sanitizeSpawnString text.toList
 | some _=>none
 | none=>
  if (bytesOf raw).head?=some 0x1a then none
  else if trim raw=[] then none
  else some (trim raw)
termination_by (bytesOf raw).length
decreasing_by exact decodedText_shorter env _h

def nonemptyString (value:Option JsonValue) : Option Text :=
 (value.bind JsonValue.asStr).bind fun text=>sanitizeSpawnString env text.toList

def textValue (text:Text) : JsonValue := .string (String.ofList text)

def splitWhitespace (text:Text) : List Text :=
 (text.splitOnP isWhitespace).filter fun word=>!word.isEmpty

def shellDescription (command:Text) : Text :=
 let oneLine:=[' '].intercalate (splitWhitespace command)
 if oneLine=[] then "run command".toList
 else if oneLine.length ≤ 80 then oneLine
 else oneLine.take 79++['…']

def rgCommand (pattern path:Text) : Text :=
 "rg --files -g ".toList++shellSingleQuote pattern ++ " -- ".toList++shellSingleQuote path

def lsCommand (path:Text) : Text := "ls -la -- ".toList++shellSingleQuote path

def inferShellCommand (obj:Members) : Members :=
 if hasNonemptyStr obj "command" then obj
 else
  match nonemptyString env (get "pattern" obj),nonemptyString env (get "path" obj) with
  | some pattern,path=>
   remove "path" (remove "pattern" (insert "command" (textValue (rgCommand pattern (path.getD ['.']))) obj))
  | none,some path=>remove "path" (insert "command" (textValue (lsCommand path)) obj)
  | none,none=>obj

def describeShell (obj:Members) : Members :=
 insertIfEmpty "description" (((get "command" obj).bind JsonValue.asStr).map fun command=>
  textValue (shellDescription command.toList)) obj

def isBoolean (value:JsonValue) : Bool := value.asBool.isSome

def runInBackground (obj:Members) : Option JsonValue :=
 (get "run_in_background" obj).filter isBoolean <|> (get "background" obj).filter isBoolean <|>
  (get "is_background" obj).filter isBoolean

def sandboxFlag (obj:Members) : Members :=
 if (get "dangerouslyDisableSandbox" obj).isSome then obj
 else
  match get "dangerously_disable_sandbox" obj with
  | some value=>
   let obj:=remove "dangerously_disable_sandbox" obj
   if isBoolean value then insert "dangerouslyDisableSandbox" value obj else obj
  | none=>obj

def claudeShellFields (obj:Members) : Members :=
 let flag:=runInBackground obj
 let obj:=sandboxFlag (["background","is_background","run_in_background","working_directory",
  "cwd","shell"].foldl (fun obj key=>remove key obj) obj)
 match flag with
 | some flag=>insert "run_in_background" flag obj
 | none=>obj

def grokShellFields (obj:Members) : Members :=
 if (get "background" obj).isNone then renameField "background" "is_background" obj
 else remove "is_background" obj

def adaptShellLike (claudeSchema:Bool) (obj:Members) : Members :=
 let obj:=describeShell (inferShellCommand env obj)
 if claudeSchema then claudeShellFields obj else grokShellFields obj

def rewriteDelete (obj:Members) : Members :=
 match ((get "command" obj).bind JsonValue.asStr).bind fun command=>
  rewriteCursorDeleteForPowershell command.toList with
 | some command=>insert "command" (textValue command) obj
 | none=>obj

/-- The bounds are zero and `i64::MAX as f64`, and the cast saturates. -/
def legacyCellIndex (value:JsonValue) : Option ℤ :=
 match value.asI64 with
 | some index=>if 0 ≤ index then some index else none
 | none=>
  match value.asU64 with
  | some index=>if index<2 ^ 63 then some index else none
  | none=>
   match (asF64 env value).bind F64.whole with
   | some index=>if 0 ≤ index ∧ index ≤ 2 ^ 63 then some (min index (2 ^ 63-1)) else none
   | none=>(value.asStr.bind fun text=>parseI64 (trim text.toList)).filter (0 ≤ ·)

def isNumericCellId (value:Text) : Bool := (parseI64 (trim value)).isSome

def isCanonicalCellId (value:JsonValue) : Bool :=
 value.asStr.any fun id=>trim id.toList != []&&!isNumericCellId id.toList

def cellSelector (index:ℤ) : JsonValue := .string ("cell-" ++ index.repr)

def selectCell (obj:Members) : Members :=
 if (get "cell_id" obj).any isCanonicalCellId then obj
 else
  match (get "cell_number" obj).bind (legacyCellIndex env) <|>
   (get "cell_id" obj).bind (legacyCellIndex env) with
  | some index=>insert "cell_id" (cellSelector index) obj
  | none=>obj

def normalizeNotebookEdit (obj:Members) : Members :=
 let obj:=insertIfEmpty "notebook_path" (get "path" obj) obj
 let obj:=selectCell env (copyAliasIfMissing "new_source" ["source"] obj)
 retainObjectKeys ["notebook_path","cell_id","new_source","cell_type","edit_mode"] obj

def taskIdString (value:JsonValue) : Option Text :=
 ((value.asStr.map fun text=>trim text.toList).filter (· != [])) <|>
  (value.asU64.map fun (id:ℕ)=>(id:ℤ).repr.toList) <|>
  (value.asI64.filter (0 ≤ ·)).map fun id=>id.repr.toList

def boolValue (value:JsonValue) : Option Bool :=
 value.asBool <|> value.asStr.bind fun text=>
  if ["true","1","yes"].contains (String.ofList (trim text.toList)) then some true
  else if ["false","0","no"].contains (String.ofList (trim text.toList)) then some false
  else none

def canonicalTaskId (key:String) (obj:Members) : Members :=
 match (get key obj).bind taskIdString with
 | some id=>insert key (textValue id) obj
 | none=>obj

def firstTaskId (obj:Members) : Option Text :=
 ((get "task_ids" obj).bind JsonValue.asArray).bind fun ids=>ids.findSome? taskIdString

def shellTaskId (obj:Members) : Option Text := (get "shell_id" obj).bind taskIdString

def blockFlag (obj:Members) : Members :=
 if (get "block" obj).any isBoolean then obj
 else
  match (get "wait" obj).bind boolValue <|> (get "blocking" obj).bind boolValue with
  | some block=>insert "block" (.bool block) obj
  | none=>obj

def timeoutField (obj:Members) : Members :=
 if (get "timeout" obj).isSome then obj
 else
  match (get "timeout_ms" obj).bind (coerceTimeoutValue env) with
  | some timeout=>insert "timeout" timeout obj
  | none=>obj

def normalizeTaskOutput (obj:Members) : Members :=
 let obj:=canonicalTaskId "task_id" obj
 let obj:=insertIfEmpty "task_id" ((firstTaskId obj <|> shellTaskId obj).map textValue) obj
 let obj:=timeoutField env (blockFlag obj)
 let obj:=dropField "timeout" (fun timeout=>!validTimeout env timeout) obj
 retainObjectKeys ["task_id","block","timeout"] obj

def normalizeClaudeTaskStop (obj:Members) : Members :=
 let obj:=canonicalTaskId "shell_id" (canonicalTaskId "task_id" obj)
 let obj:=insertIfEmpty "task_id" ((shellTaskId obj <|> firstTaskId obj).map textValue) obj
 retainObjectKeys ["task_id","shell_id"] obj

def normalizeGrokTaskStop (obj:Members) : Members :=
 let obj:=insertIfEmpty "task_id" ((shellTaskId obj <|> firstTaskId obj).map textValue) obj
 retainObjectKeys ["task_id","task_ids"] obj

def adaptTaskIdsList (obj:Members) : Members :=
 let listed:=((get "task_ids" obj).bind JsonValue.asArray).any (!·.isEmpty)
 let id:=nonemptyString env (get "task_id" obj) <|>
  ((get "task_id" obj).bind JsonValue.asU64).map fun (id:ℕ)=>(id:ℤ).repr.toList
 remove "task_id" <|
  match listed,id with
  | false,some id=>insert "task_ids" (.array [textValue id]) obj
  | _,_=>obj

def normalCommand (command:String) : Option String :=
 if ["strReplace","replace","replace_string"].contains command then some "str_replace"
 else if ["new","write","overwrite"].contains command then some "create"
 else none

def normalizeCommand (obj:Members) : Members :=
 match ((get "command" obj).bind JsonValue.asStr).bind normalCommand with
 | some command=>insert "command" (.string command) obj
 | none=>obj

/-- Without a field of an operation no command is inferred. -/
def inferCommand (obj:Members) : Members :=
 if (get "command" obj).isSome then obj
 else if (get "old_str" obj).isSome||(get "new_str" obj).isSome then
  insert "command" (.string "str_replace") obj
 else if (get "file_text" obj).isSome then insert "command" (.string "create") obj
 else if (get "insert_text" obj).isSome||(get "insert_line" obj).isSome then
  insert "command" (.string "insert") obj
 else obj

def copyAliases (table:List (String×List String)) (obj:Members) : Members :=
 table.foldl (fun obj row=>copyAliasIfMissing row.1 row.2 obj) obj

def textEditorAliases : List (String×List String) :=
 [("path",["file_path","target_file"]),("old_str",["old_string","oldText","old_text"]),
  ("new_str",["new_string","newText","new_text","content"]),
  ("file_text",["contents","file_content"]),("insert_text",["text"]),
  ("insert_line",["line","line_number"]),("view_range",["range"]),("max_characters",["maxChars","max_chars"])]

def textEditorFields : List String :=
 ["command","path","old_str","new_str","file_text","insert_line","insert_text","view_range","max_characters"]

def normalizeTextEditorInput (obj:Members) : Members :=
 retainObjectKeys textEditorFields (inferCommand (normalizeCommand (copyAliases textEditorAliases obj)))

def adaptStrict (table:List (String×List String)) (allowed:List String) (obj:Members) : Members :=
 retainObjectKeys allowed (copyAliases table obj)

def adaptEdit : Members → Members :=
 adaptStrict [("file_path",["path","target_file"]),("old_string",["oldText","old_text"]),
  ("new_string",["newText","new_text","content"]),("replace_all",["replaceAll"])]
  ["file_path","old_string","new_string","replace_all"]

def adaptEditItem : Members → Members :=
 adaptStrict [("old_string",["oldText","old_text"]),("new_string",["newText","new_text"]),
  ("replace_all",["replaceAll"])] ["old_string","new_string","replace_all"]

def adaptMultiEdit (obj:Members) : Members :=
 adaptItems "edits" adaptEditItem
  (adaptStrict [("file_path",["path","target_file"]),("replace_all",["replaceAll"])]
   ["file_path","edits","replace_all"] obj)

def todoContent (item:Members) : Text :=
 (((get "content" item).bind JsonValue.asStr).map fun text=>trim text.toList).filter (· != [])
  |>.getD "todo".toList

def todoStatus (item:Members) : String :=
 (((get "status" item).bind JsonValue.asStr).filter ["pending","in_progress","completed"].contains).getD "pending"

def adaptTodo (item:Members) : Members :=
 let item:=remove "id" item
 let content:=todoContent item
 let item:=insert "content" (textValue content) item
 let item:=insert "status" (.string (todoStatus item)) item
 insertIfEmpty "activeForm" (some (textValue ("Working on ".toList++content))) item

def lowerAscii (text:Text) : Text := text.map Char.toLower

def looksLikeNamedAgentType (lower:Text) : Bool :=
 (["claude","claude-code-guide","general-purpose","explore","plan","statusline-setup"].any
  fun name=>name.toList==lower) ||
  ["-checker","-guide","-setup","-researcher","-builder"].any
   fun ending=>ending.toList.isSuffixOf lower

def spawnTypeLooksLikeModelId (raw:Text) : Bool :=
 let lower:=lowerAscii raw
 !looksLikeNamedAgentType lower &&
  ((["cursor-","claude-","gpt-","grok-","gemini-","composer-","kimi-","glm-"].any
   fun front=>front.toList.isPrefixOf lower) ||
   (find "claude-fable".toList lower).isSome || "fable-".toList.isPrefixOf lower)

def remapModelSlugSubagentType (obj:Members) : Members :=
 match nonemptyString env (get "subagent_type" obj) with
 | some raw=>
  if spawnTypeLooksLikeModelId raw then
   insert "subagent_type" (.string "general-purpose") obj
  else obj
 | none=>obj

def isClaudeModel (value:JsonValue) : Bool :=
 value.asStr.any ["sonnet","opus","haiku","fable"].contains

def adaptClaudeAgentInput (obj:Members) : Members :=
 let obj:=remove "resume_from" (remove "resume" (remapModelSlugSubagentType env obj))
 if (get "model" obj).any isClaudeModel then obj else remove "model" obj

def spawnBackgroundFlag (value:JsonValue) : Option Bool :=
 match value.asBool with
 | some flag=>some flag
 | none=>value.asStr.bind fun text=>
  (decodeProtobufValueBytes env.toMcpEnv (bytesOf text.toList)).bind JsonValue.asBool

def compactLower (text:Text) : Text :=
 lowerAscii (text.filter fun char=>char != '_' && char != '-')

def normalizeSpawnSubagentType (raw:Text) : Option Text :=
 if trim raw=[] then none
 else if spawnTypeLooksLikeModelId (trim raw) then some "general-purpose".toList
 else if compactLower (trim raw) = "generalpurpose".toList then some "general-purpose".toList
 else if compactLower (trim raw) = "explore".toList then some "explore".toList
 else if compactLower (trim raw) = "plan".toList then some "plan".toList
 else some (trim raw)

def normalizeCapabilityMode (raw:Text) : Option Text :=
 if compactLower raw = "readonly".toList then some "read-only".toList
 else if compactLower raw = "readwrite".toList then some "read-write".toList
 else if compactLower raw = "execute".toList then some "execute".toList
 else if compactLower raw = "all".toList then some "all".toList
 else none

def normalizeIsolation (raw:Text) : Option Text :=
 if compactLower raw = "none".toList then some "none".toList
 else if compactLower raw = "worktree".toList then some "worktree".toList
 else none

def spawnClientModel (raw:Text) : Option Text :=
 let lower:=lowerAscii raw
 if "cursor-".toList.isPrefixOf lower || "claude-fable".toList.isPrefixOf lower then none
 else some raw

def spawnFields (obj:Members) : List (String×Option JsonValue) :=
 let text:=fun key=>nonemptyString env (get key obj)
 [("description",(text "description").map textValue),("prompt",(text "prompt").map textValue),
  ("subagent_type",((text "subagent_type").bind normalizeSpawnSubagentType).map textValue),
  ("resume_from",(text "resume_from" <|> text "resume").map textValue),
  ("background",((get "background" obj <|> get "run_in_background" obj).bind
   (spawnBackgroundFlag env)).map .bool),
  ("capability_mode",((text "capability_mode").bind normalizeCapabilityMode).map textValue),
  ("isolation",((text "isolation").bind normalizeIsolation).map textValue),
  ("cwd",(text "cwd").map textValue),
  ("model",((text "model").bind spawnClientModel).map textValue)]

def buildObject (fields:List (String×Option JsonValue)) : Members :=
 fields.foldl (fun out field=>
  match field.2 with
  | some value=>insert field.1 value out
  | none=>out) []

def adaptNativeTaskToSpawnSubagent : JsonValue → JsonValue
 | .object obj=>.object (buildObject (spawnFields env obj))
 | _=>.object []

inductive Schema where
 | read | edit | multiEdit | notebookEdit | readFile | listDir | glob | runTerminal
 | shell (powerShell:Bool) | write | textEditor | grep | webSearch | webFetch | todoWrite
 | commandOutput | taskOutput | grokTaskStop | claudeTaskStop | planMode | exitPlanMode | other

def schemaOf (name:String) : Schema :=
 if name = "Read" then .read
 else if name = "Edit" then .edit
 else if name = "MultiEdit" then .multiEdit
 else if name = "NotebookEdit" then .notebookEdit
 else if ["read_file","ReadFile"].contains name then .readFile
 else if name = "list_dir" then .listDir
 else if ["Glob","glob"].contains name then .glob
 else if ["run_terminal_command","run_terminal_cmd"].contains name then .runTerminal
 else if ["Bash","PowerShell","Shell","bash"].contains name then .shell (name == "PowerShell")
 else if ["write","write_file","WriteFile"].contains name then .write
 else if isTextEditorToolName name then .textEditor
 else if ["grep","Grep"].contains name then .grep
 else if name = "web_search" then .webSearch
 else if ["WebFetch","Fetch"].contains name then .webFetch
 else if name = "TodoWrite" then .todoWrite
 else if ["get_command_or_subagent_output","get_terminal_command_output",
  "wait_commands_or_subagents"].contains name then .commandOutput
 else if ["TaskOutput","BashOutput","BashOutputTool","AgentOutputTool",
  "AgentOutput"].contains name then .taskOutput
 else if ["kill_command_or_subagent","kill_terminal_command"].contains name then .grokTaskStop
 else if ["TaskStop","KillShell","KillBash"].contains name then .claudeTaskStop
 else if ["enter_plan_mode","EnterPlanMode","exit_plan_mode"].contains name then .planMode
 else if name = "ExitPlanMode" then .exitPlanMode
 else .other

def adaptRead (obj:Members) : Members :=
 normalizeReadRange (coerceIntegerFields env ["offset","limit"] obj)

def adaptReadFile (obj:Members) : Members :=
 let obj:=adaptRead env obj
 remove "path" (remove "file_path" (insertIfEmpty "target_file" (get "file_path" obj <|> get "path" obj) obj))

def adaptListDir (obj:Members) : Members :=
 remove "pattern" (remove "path" (insertIfEmpty "target_directory" (get "path" obj <|> get "target_file" obj) obj))

def adaptWrite (obj:Members) : Members :=
 let obj:=insertIfEmpty "file_path" (get "path" obj <|> get "target_file" obj) obj
 let obj:=insertIfEmpty "content" (get "file_text" obj <|> get "contents" obj) obj
 remove "contents" (remove "file_text" (remove "path" obj))

def adaptGrep (obj:Members) : Members :=
 renameField "-i" "case_insensitive" (coerceIntegerFields env ["head_limit","-B","-A","-C"] obj)

def adaptObject : Schema → Members → Members
 | .read,obj=>adaptRead env obj
 | .edit,obj=>adaptEdit obj
 | .multiEdit,obj=>adaptMultiEdit obj
 | .notebookEdit,obj=>normalizeNotebookEdit env obj
 | .readFile,obj=>adaptReadFile env obj
 | .listDir,obj=>adaptListDir obj
 | .glob,obj=>insertIfEmpty "pattern" (some (.string "*")) obj
 | .runTerminal,obj=>adaptShellLike env false (coerceIntegerFields env ["timeout"] obj)
 | .shell powerShell,obj=>
  let obj:=coerceIntegerFields env ["timeout"] obj
  adaptShellLike env true (if powerShell then rewriteDelete obj else obj)
 | .write,obj=>adaptWrite obj
 | .textEditor,obj=>normalizeTextEditorInput obj
 | .grep,obj=>adaptGrep env obj
 | .webSearch,obj=>remove "search_term" (insertIfEmpty "query" (get "search_term" obj) obj)
 | .webFetch,obj=>
  insertIfEmpty "prompt" (some (.string "Extract the main content from this URL.")) obj
 | .todoWrite,obj=>remove "merge" (adaptItems "todos" adaptTodo obj)
 | .commandOutput,obj=>adaptTaskIdsList env (coerceIntegerFields env ["timeout_ms"] obj)
 | .taskOutput,obj=>normalizeTaskOutput env obj
 | .grokTaskStop,obj=>normalizeGrokTaskStop obj
 | .claudeTaskStop,obj=>normalizeClaudeTaskStop obj
 | .planMode,_=>[]
 | .exitPlanMode,obj=>retainObjectKeys ["plan","allowedPrompts"] obj
 | .other,obj=>obj

def isForeignQualifiedMcpName (name:String) : Bool :=
 let named:=fun (parts:Text×Text)=>!parts.1.isEmpty&&!parts.2.isEmpty
 if isClaudeLocalMcpSpelling name then false
 else
  match stripPrefix "mcp__".toList name.toList with
  | some rest=>(splitOnce "__".toList rest).any named
  | none=>(splitOnce ['/'] name.toList <|> splitOnce [':'] name.toList).any named

def adaptToolInputForClient (advertisedName:String) (input:JsonValue) : JsonValue :=
 let schemaName:=stripMcpProviderPrefix advertisedName
 if isForeignQualifiedMcpName advertisedName then input
 else if schemaName = "spawn_subagent" then adaptNativeTaskToSpawnSubagent env input
 else
  match input with
  | .object obj=>
   if ["Agent","Task"].contains schemaName then .object (adaptClaudeAgentInput env obj)
   else .object (adaptObject env (schemaOf schemaName) obj)
  | input=>input

def adaptClientToolInput (advertisedName:String) (input:JsonValue) : JsonValue :=
 if advertisedName = "spawn_subagent" then adaptNativeTaskToSpawnSubagent env input
 else adaptToolInputForClient env advertisedName input

end

end CursorProxy.ClientInputs
