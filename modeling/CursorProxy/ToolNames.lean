import CursorProxy.CautiousScan

namespace CursorProxy.ToolNames
open CautiousScan

def eqIgnoreAsciiCase (left right:String) : Bool :=
 left.toList.map Char.toLower==right.toList.map Char.toLower

def cursorNativeToolNames : List String :=
 ["Bash","Shell","bash","Read","ReadFile","Write","write_file","WriteFile","StrReplace",
  "Grep","Search","Glob","glob","Find","Delete","Ls","WebSearch","WebFetch","Fetch",
  "TodoWrite","TodoRead","AskUserQuestion","AskQuestion","CreatePlan","Plan"]

def claudeClientOnlyToolNames : List String :=
 ["Agent","Edit","MultiEdit","NotebookEdit","NotebookRead","PowerShell","EnterPlanMode",
  "ExitPlanMode","EnterWorktree","ExitWorktree","TaskCreate","TaskGet","TaskUpdate",
  "TaskList","TaskStop","TaskOutput","AgentOutputTool","BashOutputTool","AgentOutput",
  "BashOutput","KillShell","KillBash","ListPeers","ListAgents","Workflow","RunWorkflow",
  "TestingPermission","LSP","Monitor","StructuredOutput","Artifact","CronCreate",
  "CronDelete","CronList","ScheduleWakeup","RemoteTrigger","SendMessage","Brief",
  "ToolSearch","ListMcpResourcesTool","ReadMcpResourceTool","ReadMcpResourceDirTool",
  "ListMcpResources","ReadMcpResource","ReadMcpResourceDir","WaitForMcpServers",
  "SendUserMessage","SendUserFile","ReportFindings","REPL","RefreshMcpTools",
  "PushNotification","ClaudeDesign","DesignSync","Projects","ShareOnboardingGuide",
  "ShowOnboardingRolePicker","ConnectGitHub","EndConversation","SendFile",
  "SearchMcpRegistry","SuggestConnectors","ListConnectors"]

def grokBuildClientToolNames : List String :=
 ["run_terminal_command","run_terminal_cmd","read_file","list_dir","todo_write",
  "search_replace","write","grep","web_search","web_fetch","ask_user_question","enter_plan_mode","exit_plan_mode"]

def isGrokBuildSubagentLifecycleTool (name:String) : Bool :=
 ["spawn_subagent","get_command_or_subagent_output","kill_command_or_subagent",
  "wait_commands_or_subagents"].contains name

def isGrokBuildClientToolName (name:String) : Bool :=
 isGrokBuildSubagentLifecycleTool name||grokBuildClientToolNames.contains name

def isCursorNativeToolName (name:String) : Bool :=
 !isGrokBuildClientToolName name&&cursorNativeToolNames.any fun native=>eqIgnoreAsciiCase native name

def isClaudeLocalMcpSpelling (name:String) : Bool :=
 ["mcp_claude-local_","mcp__claude-local__","claude-local/","claude-local:"].any
  fun spelling=>spelling.toList.isPrefixOf name.toList

def splitOnce (separator name:List Char) : Option (List Char×List Char) :=
 (find separator name).map fun place=>
  (name.take place,name.drop (place+separator.length))

def stripPrefix (word name:List Char) : Option (List Char) :=
 if word.isPrefixOf name then some (name.drop word.length) else none

theorem splitOnce_single {separator:Char} (before after:List Char) (h:separator ∉ before) :
 splitOnce [separator] (before++separator::after)=some (before,after):=by
 unfold splitOnce
 rw [find_single before after h,Option.map_some,List.take_left,← List.drop_drop,List.drop_left]
 rfl

theorem of_splitOnce_single {separator:Char} {name before after:List Char}
 (h:splitOnce [separator] name=some (before,after)) : name=before++separator::after ∧ separator ∉ before:=by
 obtain ⟨place,hplace,heq⟩:=Option.map_eq_some_iff.mp h
 obtain ⟨rfl,rfl⟩:=Prod.mk.inj heq
 exact of_find_single hplace

theorem stripPrefix_append (word name:List Char) : stripPrefix word (word++name)=some name:=by
 unfold stripPrefix
 rw [if_pos (List.isPrefixOf_iff_prefix.mpr ⟨name,rfl⟩),List.drop_left]

theorem of_stripPrefix {word name rest:List Char} (h:stripPrefix word name=some rest) : name=word++rest:=by
 unfold stripPrefix at h
 split_ifs at h with hfront
 obtain ⟨tail,rfl⟩ := List.isPrefixOf_iff_prefix.mp hfront
 rw [List.drop_left] at h
 rw [Option.some.inj h]

/-- `provider/tool`, and the same with a colon. -/
def qualifiedLeaf (separator:Char) (name:List Char) : Option (List Char) :=
 (splitOnce [separator] name).bind fun (provider,tool)=>
  if !provider.isEmpty&&!tool.isEmpty&&!tool.contains '/' && !tool.contains ':' then some tool
  else none

def doubleUnderscoreLeaf (name:List Char) : Option (List Char) :=
 (stripPrefix "mcp__".toList name).bind fun rest=>
  (splitOnce "__".toList rest).bind fun (provider,tool)=>
   if provider == "claude-local".toList&&!tool.isEmpty then some tool else none

def underscoreLeaf (name:List Char) : Option (List Char) :=
 (stripPrefix "mcp_".toList name).bind fun rest=>
  (stripPrefix "claude-local_".toList rest).bind fun tool=>
   if !tool.isEmpty then some tool else none

def stripMcpProviderPrefix (name:String) : String :=
 ((qualifiedLeaf '/' name.toList <|> qualifiedLeaf ':' name.toList <|>
  doubleUnderscoreLeaf name.toList <|> underscoreLeaf name.toList).map String.ofList).getD name

def textEditorToolNames : List String :=
 ["str_replace_based_edit_tool","str_replace_editor","StrReplace","StrReplaceTool"]

def isTextEditorToolName (name:String) : Bool :=
 let leaf:=if isClaudeLocalMcpSpelling name then stripMcpProviderPrefix name else name
 textEditorToolNames.any fun editor=>eqIgnoreAsciiCase editor leaf

def isClaudeClientOnlyToolName (name:String) : Bool :=
 !isCursorNativeToolName name&&((claudeClientOnlyToolNames.any fun clientOnly=>eqIgnoreAsciiCase clientOnly name) ||
  isTextEditorToolName name)

def preferredTextEditorNames : List String :=
 ["str_replace_based_edit_tool","StrReplace","StrReplaceTool","str_replace_editor"]

/-- The allow-list comes in the order of the set. -/
def preferredTextEditorName (allowed:List String) : Option String :=
 (preferredTextEditorNames.findSome? fun editor=>
  allowed.find? fun advertised=>eqIgnoreAsciiCase advertised editor) <|>
 preferredTextEditorNames.findSome? fun editor=>
  allowed.find? fun advertised=>isClaudeLocalMcpSpelling advertised &&
   eqIgnoreAsciiCase (stripMcpProviderPrefix advertised) editor

def claudeToolAliasGroups : List (List String) :=
 [["Agent","Task"],["TaskStop","KillShell","KillBash"],
  ["TaskOutput","AgentOutputTool","BashOutputTool","AgentOutput","BashOutput"],
  ["ListAgents","ListPeers"],["SendUserMessage","Brief"],
  ["ListMcpResourcesTool","ListMcpResources"],["ReadMcpResourceTool","ReadMcpResource"],
  ["ReadMcpResourceDirTool","ReadMcpResourceDir"],["Workflow","RunWorkflow"],
  ["Edit","str_replace_based_edit_tool","str_replace_editor","StrReplace","StrReplaceTool"]]

def claudeToolAliases (name:String) : List String :=
 (claudeToolAliasGroups.find? fun group=>
  group.any fun candidate=>eqIgnoreAsciiCase candidate name).getD []

def claudeToolNamesEquivalent (left right:String) : Bool :=
 left==right ||
  (eqIgnoreAsciiCase left right&&(isClaudeClientOnlyToolName left||isClaudeClientOnlyToolName right)) ||
  ((claudeToolAliases left).any fun candidate=>eqIgnoreAsciiCase candidate right) ||
  (claudeToolAliases right).any fun candidate=>eqIgnoreAsciiCase candidate left

def claudeLocalCaseNames : List String :=
 ["Agent","Edit","MultiEdit","NotebookEdit","str_replace_based_edit_tool",
  "str_replace_editor","StrReplace","StrReplaceTool","NotebookRead","PowerShell","Task",
  "TaskCreate","TaskGet","TaskUpdate","TaskList","TaskStop","AgentOutputTool",
  "BashOutputTool","AgentOutput","BashOutput","KillShell","KillBash","ListPeers",
  "EnterPlanMode","ExitPlanMode","EnterWorktree","ExitWorktree","LSP","CronCreate",
  "CronDelete","CronList","ScheduleWakeup","RemoteTrigger","SendMessage","Brief",
  "ToolSearch","ListMcpResourcesTool","ReadMcpResourceTool","ReadMcpResourceDirTool",
  "ListMcpResources","ReadMcpResource","ReadMcpResourceDir","ListAgents",
  "WaitForMcpServers","SendUserMessage","SendUserFile","ReportFindings","TaskOutput",
  "Monitor","StructuredOutput","TestingPermission","Artifact","REPL","RefreshMcpTools",
  "PushNotification","DesignSync","Projects","ShareOnboardingGuide","ClaudeDesign",
  "ShowOnboardingRolePicker","ConnectGitHub","EndConversation","SendFile",
  "SearchMcpRegistry","SuggestConnectors","ListConnectors","Workflow","RunWorkflow","Skill"]

def isCaseInsensitiveBuiltinTool (name:String) : Bool :=
 claudeLocalCaseNames.any fun candidate=>eqIgnoreAsciiCase candidate name

def canonicalizeAllowedToolName (allowedToolNames:Option (List String)) (name:String) : Option String :=
 match allowedToolNames with
 | some allowed=>
  let editorAlias:=eqIgnoreAsciiCase name "Edit" || isTextEditorToolName name
  (if editorAlias then preferredTextEditorName allowed else none) <|>
   allowed.find? (fun advertised=>advertised==name) <|>
   (if isCaseInsensitiveBuiltinTool name then
    allowed.find? fun advertised=>eqIgnoreAsciiCase advertised name
   else none) <|>
   allowed.find? fun advertised=>claudeToolNamesEquivalent name advertised
 | none=>some name

end CursorProxy.ToolNames
