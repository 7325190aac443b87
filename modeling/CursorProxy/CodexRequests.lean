import CursorProxy.CodexReducer
import CursorProxy.StableJson

/-! A request and the JSON value that `serde_json` makes of it. A field that is `none` is left
out; the members of an object stand in the order of their keys. -/
namespace CursorProxy.CodexRequests
open JsonValues StableJson CodexReducer DelimitedWords

abbrev Fields := List (String×Option JsonValue)

def present (fields:Fields) : List (String×JsonValue) :=
 fields.filterMap fun field=>field.2.map fun value=>(field.1,value)

def objectOf (fields:Fields) : JsonValue := .object (present fields)

def strings (items:List String) : JsonValue := .array (items.map JsonValue.string)

structure Value where
 json : JsonValue
 held : Held json

inductive Effort where
 | none
 | low
 | medium
 | high
 | xhigh
 | max

inductive ServiceTier where
 | priority
 | flex

inductive ResponsesToolChoice where
 | auto
 | none
 | required
 | function (type name:String)
 | webSearch (type:String)
 | allowedTools (type mode:String) (tools:List Value)

structure ResponsesReasoning where
 effort : Option Effort
 summary : Option String
 context : Option String

inductive ResponsesTextFormat where
 | text
 | jsonObject
 | jsonSchema (name:String) (schema:Value) (strict:Option Bool)

structure ResponsesText where
 verbosity : Option String
 format : Option ResponsesTextFormat

structure ResponsesWebSearchFilters where
 allowedDomains : Option (List String)
 blockedDomains : Option (List String)

inductive ResponsesTool where
 | function (kind name:String) (description:Option String) (parameters:Value)
  (strict:Bool)
 | webSearch (kind:String) (externalWebAccess:Bool) (searchContentTypes:List String)
  (filters:Option ResponsesWebSearchFilters)

/-- A map from strings to strings, in the order of its keys. -/
structure Metadata where
 entries : List (String×String)
 sorted : (entries.map Prod.fst).Pairwise (· < ·)

structure ResponsesRequest where
 model : String
 instructions : Option String
 input : List ResponsesInputItem
 tools : Option (List ResponsesTool)
 toolChoice : Option ResponsesToolChoice
 store : Bool
 stream : Bool
 parallelToolCalls : Bool
 includes : Option (List String)
 clientMetadata : Option Metadata
 serviceTier : Option ServiceTier
 promptCacheKey : Option String
 text : ResponsesText
 reasoning : Option ResponsesReasoning

def Effort.toValue : Effort → JsonValue
 | .none=>.string "none"
 | .low=>.string "low"
 | .medium=>.string "medium"
 | .high=>.string "high"
 | .xhigh=>.string "xhigh"
 | .max=>.string "max"

def ServiceTier.toValue : ServiceTier → JsonValue
 | .priority=>.string "priority"
 | .flex=>.string "flex"

/-- The enumeration is untagged, so that a variant without fields is null. -/
def ResponsesToolChoice.toValue : ResponsesToolChoice → JsonValue
 | .auto=>.null
 | .none=>.null
 | .required=>.null
 | .function type name=>objectOf [("name",some (.string name)),("type",some (.string type))]
 | .webSearch type=>objectOf [("type",some (.string type))]
 | .allowedTools type mode tools=>
  objectOf [("mode",some (.string mode)),("tools",some (.array (tools.map Value.json))),("type",some (.string type))]

def ResponsesReasoning.toValue (reasoning:ResponsesReasoning) : JsonValue :=
 objectOf [("context",reasoning.context.map .string),
  ("effort",reasoning.effort.map Effort.toValue),("summary",reasoning.summary.map .string)]

/-- A schema without `strict` has null there. -/
def ResponsesTextFormat.toValue : ResponsesTextFormat → JsonValue
 | .text=>objectOf [("type",some (.string "text"))]
 | .jsonObject=>objectOf [("type",some (.string "json_object"))]
 | .jsonSchema name schema strict=>
  objectOf [("name",some (.string name)),("schema",some schema.json),
   ("strict",some ((strict.map JsonValue.bool).getD .null)),("type",some (.string "json_schema"))]

def ResponsesText.toValue (text:ResponsesText) : JsonValue :=
 objectOf [("format",text.format.map ResponsesTextFormat.toValue),("verbosity",text.verbosity.map .string)]

def ResponsesWebSearchFilters.toValue (filters:ResponsesWebSearchFilters) : JsonValue :=
 objectOf [("allowed_domains",filters.allowedDomains.map strings),
  ("blocked_domains",filters.blockedDomains.map strings)]

def ResponsesTool.toValue : ResponsesTool → JsonValue
 | .function kind name description parameters strict=>
  objectOf [("description",description.map .string),("name",some (.string name)),
   ("parameters",some parameters.json),("strict",some (.bool strict)),("type",some (.string kind))]
 | .webSearch kind externalWebAccess searchContentTypes filters=>
  objectOf [("external_web_access",some (.bool externalWebAccess)),
   ("filters",filters.map ResponsesWebSearchFilters.toValue),
   ("search_content_types",some (strings searchContentTypes)),("type",some (.string kind))]

def Metadata.toValue (metadata:Metadata) : JsonValue :=
 .object (metadata.entries.map fun entry=>(entry.1,.string entry.2))

def contentValue : ResponsesContentPart → JsonValue
 | .inputText text=>objectOf [("text",some (.string text)),("type",some (.string "input_text"))]
 | .outputText text=>
  objectOf [("text",some (.string text)),("type",some (.string "output_text"))]
 | .inputImage imageUrl detail=>
  objectOf [("detail",detail.map .string),("image_url",some (.string imageUrl)),("type",some (.string "input_image"))]

def itemValue : ResponsesInputItem → JsonValue
 | .additionalTools id role tools=>
  objectOf [("id",id.map .string),("role",some (.string role)),("tools",some (.array tools)),
   ("type",some (.string "additional_tools"))]
 | .message role content=>
  objectOf [("content",some (.array (content.map contentValue))),("role",some (.string role)),
   ("type",some (.string "message"))]
 | .functionCall callId name arguments=>
  objectOf [("arguments",some (.string arguments)),("call_id",some (.string callId)),
   ("name",some (.string name)),("type",some (.string "function_call"))]
 | .functionCallOutput callId output=>
  objectOf [("call_id",some (.string callId)),("output",some (.string output)),
   ("type",some (.string "function_call_output"))]
 | .reasoning id summary encryptedContent=>
  objectOf [("encrypted_content",some (.string encryptedContent)),("id",some (.string id)),
   ("summary",some (.array summary)),("type",some (.string "reasoning"))]

namespace ResponsesRequest

def fields (body:ResponsesRequest) : Fields :=
 [("client_metadata",body.clientMetadata.map Metadata.toValue),("include",body.includes.map strings),
  ("input",some (.array (body.input.map itemValue))),("instructions",body.instructions.map .string),
  ("model",some (.string body.model)),("parallel_tool_calls",some (.bool body.parallelToolCalls)),
  ("prompt_cache_key",body.promptCacheKey.map .string),("reasoning",body.reasoning.map ResponsesReasoning.toValue),
  ("service_tier",body.serviceTier.map ServiceTier.toValue),("store",some (.bool body.store)),
  ("stream",some (.bool body.stream)),("text",some body.text.toValue),
  ("tool_choice",body.toolChoice.map ResponsesToolChoice.toValue),
  ("tools",body.tools.map fun tools=>.array (tools.map ResponsesTool.toValue))]

def promptFields (body:ResponsesRequest) : Fields :=
 body.fields.filter fun field=>field.1 ≠ "input"

end ResponsesRequest

/-- The keys of the fields are written as they are. -/
def signatureText (entry:String×JsonValue) : Text :=
 '"' :: entry.1.toList ++ '"' :: ':' :: stableJson entry.2

def promptSignature (body:ResponsesRequest) : Text :=
 let entries:=(present body.fields).filter fun entry=>entry.1 ≠ "input"
 let sorted:=entries.insertionSort fun first second=>first.1 ≤ second.1
 '\x7b' :: joined ',' (sorted.map signatureText)++['\x7d']

end CursorProxy.CodexRequests
