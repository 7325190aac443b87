import CursorProxy.ToolNames

namespace CursorProxy.AdvertisedNames
open CautiousScan ToolNames

/-- The spellings of one tool, and under which of them it may be advertised. -/
def fallbackGroups : List (List String×List String) :=
 [(["Bash"],["Bash","PowerShell","Shell","bash","run_terminal_command","run_terminal_cmd"]),
  (["Read","read","read_file","ReadFile"],["Read","read","read_file","ReadFile"]),
  (["Write","write","write_file","WriteFile"],["Write","write","write_file","WriteFile"]),
  (["Edit","edit","StrReplace","StrReplaceTool","str_replace_based_edit_tool","str_replace_editor"],
   ["Edit","str_replace_based_edit_tool","StrReplace","StrReplaceTool","str_replace_editor"]),
  (["MultiEdit"],["MultiEdit"]),(["Grep"],["Grep","grep","Search"]),(["Glob"],["Glob","glob","Find","list_dir"]),
  (["LS","Ls"],["LS","Ls","list_dir","Bash","run_terminal_command","Glob"]),
  (["WebSearch"],["WebSearch","web_search"]),(["WebFetch"],["WebFetch","web_fetch","Fetch"]),
  (["TodoWrite"],["TodoWrite","todo_write"]),(["TodoRead"],["TodoRead"]),
  (["AskUserQuestion"],["AskUserQuestion","AskQuestion","ask_user_question"]),
  (["CreatePlan"],["CreatePlan","Plan","ExitPlanMode","exit_plan_mode"]),
  (["Task"],["Task","spawn_subagent","Agent","task"]),
  (["TaskOutput","BashOutput","BashOutputTool","AgentOutputTool","AgentOutput",
   "get_command_or_subagent_output","get_terminal_command_output","wait_commands_or_subagents"],
   ["TaskOutput","BashOutput","BashOutputTool","AgentOutputTool","AgentOutput",
    "get_command_or_subagent_output","get_terminal_command_output","wait_commands_or_subagents"]),
  (["TaskStop","KillShell","KillBash","kill_command_or_subagent","kill_terminal_command"],
   ["TaskStop","KillShell","KillBash","kill_command_or_subagent","kill_terminal_command"])]

def advertisedNameFallbacks (mappedName:String) : List String :=
 match fallbackGroups.find? fun group=>group.1.contains mappedName with
 | some group=>group.2
 | none=>claudeToolAliases mappedName

/-- The hexadecimal digest of a name stands for its end if it is long. -/
def cursorMcpWireName (sha256:String → String) (name:String) : String :=
 if name.length ≤ 64 then name
 else String.ofList (name.toList.take 57++(sha256 name).toList.take 7)

/-- A name with the provider of the client, or one that is advertised with it. -/
def resolveLocal (mappedName:String) (allowed:List String) : Option String :=
 let qualified:=isClaudeLocalMcpSpelling mappedName
 if qualified||allowed.any isClaudeLocalMcpSpelling then
  let leaf:=stripMcpProviderPrefix mappedName
  allowed.find? (fun candidate=>isClaudeLocalMcpSpelling candidate &&
   eqIgnoreAsciiCase (stripMcpProviderPrefix candidate) leaf &&
   claudeToolNamesEquivalent leaf (stripMcpProviderPrefix candidate)) <|>
   allowed.find? (fun candidate=>isClaudeLocalMcpSpelling candidate &&
    claudeToolNamesEquivalent leaf (stripMcpProviderPrefix candidate)) <|>
   (if qualified then
    allowed.find? (fun candidate=>eqIgnoreAsciiCase candidate leaf &&
     claudeToolNamesEquivalent leaf candidate) <|>
     allowed.find? fun candidate=>claudeToolNamesEquivalent leaf candidate
   else none)
 else none

/-- The allow-list comes in the order of the set. -/
def resolveAdvertisedName (sha256:String → String) (mappedName:String) : Option (List String) → Option String
 | none=>some mappedName
 | some allowed=>
  (if eqIgnoreAsciiCase mappedName "Edit" || isTextEditorToolName mappedName then
   preferredTextEditorName allowed
  else none) <|>
  (if allowed.contains mappedName then some mappedName else none) <|>
  ((advertisedNameFallbacks mappedName).find? fun candidate=>allowed.contains candidate) <|>
  allowed.find? (fun candidate=>eqIgnoreAsciiCase candidate mappedName &&
   claudeToolNamesEquivalent mappedName candidate) <|>
  allowed.find? (fun candidate=>claudeToolNamesEquivalent mappedName candidate) <|>
  resolveLocal mappedName allowed <|>
  (if (find "__".toList mappedName.toList).isSome then
   allowed.find? (fun candidate=>cursorMcpWireName sha256 candidate==mappedName) <|>
    allowed.find? fun candidate=>candidate==mappedName
  else none) <|>
  (if mappedName == "Bash" then
   allowed.find? fun candidate=>eqIgnoreAsciiCase candidate "bash"
  else none)

end CursorProxy.AdvertisedNames
