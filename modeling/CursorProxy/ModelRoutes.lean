import CursorProxy.SseEvents

/-! Models are assigned to Cursor accounts by rules, and the rules are part of the config
document. -/
namespace CursorProxy.ModelRoutes
open JsonValues XmlElements

def stripSuffix (suffix text:Text) : Option Text :=
 if suffix.isSuffixOf text then some (text.take (text.length-suffix.length)) else none

def stripStart (start text:Text) : Option Text :=
 if start.isPrefixOf text then some (text.drop start.length) else none

def isAsciiWhitespace (char:Char) : Bool := [9,10,12,13,32].contains char.toNat

/-- What stands before the last bracket and within it, if the text ends with a bracket. -/
def splitBrackets (text:Text) : Option (Text×Text) :=
 if text.getLast?=some ')' ∧ '(' ∈ text then
  let inner:=(text.reverse.takeWhile (· ≠ '(')).reverse
  some (text.take (text.length-inner.length-1),inner.dropLast)
 else none

def stripContext (text:Text) : Text :=
 (["[1m]","[2m]"].findSome? fun suffix=>stripSuffix suffix.toList text).getD text

def stripContextWords (text:Text) : Text :=
 match splitBrackets text with
 | none=>text
 | some (before,inner)=>
  let inner:=inner.filter fun char=>!isAsciiWhitespace char
  if inner = "1mcontext".toList ∨ inner = "2mcontext".toList then
   before.rdropWhile isWhitespace
  else text

def stripNamespace (text:Text) : Text :=
 (["cursor-plan:","cursor-ask:","cursor-agent:","cursor:"].findSome? fun start=>
  stripStart start.toList text).getD text

def normalizeText (text:Text) : Text :=
 trim (stripNamespace (stripContextWords (stripContext ((trim text).map Char.toLower))))

def normalizeSandModel (model:String) : String := String.ofList (normalizeText model.toList)

/-- What is left of the pattern and of the text, and the last star: the pattern behind it, and
the text that it has not taken yet. -/
def globLoop (pattern text:List UInt8) (star:Option (List UInt8×List UInt8)) : Bool :=
 match text,pattern with
 | [],pattern=>pattern.all (·=42)
 | byte::text,symbol::pattern=>
  if symbol=63 ∨ symbol=byte then globLoop pattern text star
  else if symbol=42 then globLoop pattern (byte::text) (some (pattern,byte::text))
  else match star with
   | some (pattern,_::text)=>globLoop pattern text (some (pattern,text))
   | _=>false
 | _::_,[]=>match star with
  | some (pattern,_::text)=>globLoop pattern text (some (pattern,text))
  | _=>false
termination_by (max ((star.map fun star=>star.2.length).getD 0) text.length,text.length,
 pattern.length)
decreasing_by
 all_goals
  simp only [Prod.lex_def,Option.map_some,Option.getD_some,List.length_cons,true_and]
  omega

def globMatches (pattern text:String) : Bool :=
 globLoop (SseEvents.bytesOf pattern.toList) (SseEvents.bytesOf text.toList) none

def withoutPreview (model:String) : Option String :=
 (stripSuffix "-preview".toList model.toList).map String.ofList

def sandPatternMatches (pattern model:String) : Bool :=
 globMatches pattern model||(withoutPreview model).any (globMatches pattern)

def isWildcard (char:Char) : Bool := char == '*' || char == '?'

def modelPatternHasWildcards (pattern:String) : Bool := pattern.toList.any isWildcard

structure CursorModelAccountRule where
 model : String
 account : String
 deriving DecidableEq

def trimmed (text:String) : String := String.ofList (trim text.toList)

def setRule (rule:CursorModelAccountRule) : List CursorModelAccountRule → List CursorModelAccountRule
 | []=>[rule]
 | item::items=>
  if item.model=rule.model then rule::items else item::setRule rule items

def addRule (routes:List CursorModelAccountRule) (rule:CursorModelAccountRule) : List CursorModelAccountRule :=
 let model:=normalizeSandModel rule.model
 let account:=trimmed rule.account
 if model = "" ∨ account = "" then routes else setRule ⟨model,account⟩ routes

def newPolicy (rules:List CursorModelAccountRule) : List CursorModelAccountRule :=
 rules.foldl addRule []

def lowered (text:String) : String := String.ofList ((trim text.toList).map Char.toLower)

def accountSelectorMatches (selector id:String) (label email:Option String) : Bool :=
 if lowered selector = "" then false
 else [some id,label,email].any fun value=>value.any fun value=>
  lowered value ≠ "" && globMatches (lowered selector) (lowered value)

/-- `BTreeMap::insert`, on members in the order of their keys. -/
def insertMember {α:Type} (key:String) (value:α) : List (String×α) → List (String×α)
 | []=>[(key,value)]
 | member::members=>
  if key < member.1 then (key,value)::member::members
  else if key=member.1 then (key,value)::members
  else member::insertMember key value members

theorem get_cons (member:String×JsonValue) (members:List (String×JsonValue))
 (other:String) : (JsonValue.object (member::members)).get other =
  if other=member.1 then some member.2 else (JsonValue.object members).get other:=by
 change ((member::members).find? fun member=>member.1==other).map Prod.snd=_
 by_cases hother:other=member.1
 · have hsame:(member.1==other)=true:=beq_iff_eq.mpr hother.symm
   rw [if_pos hother,List.find?_cons,hsame]
   rfl
 · have hsame:(member.1==other)=false:=beq_eq_false_iff_ne.mpr (Ne.symm hother)
   rw [if_neg hother,List.find?_cons,hsame]
   rfl

theorem get_insertMember (key other:String) (value:JsonValue) (members:List (String×JsonValue)) :
 (JsonValue.object (insertMember key value members)).get other =
  if other=key then some value else (JsonValue.object members).get other:=by
 induction members with
 | nil=>exact get_cons (key,value) [] other
 | cons member members ih=>
  rw [insertMember]
  by_cases hless:key < member.1
  · rw [if_pos hless]
    exact get_cons (key,value) (member::members) other
  rw [if_neg hless]
  by_cases hsame:key=member.1
  · rw [if_pos hsame,get_cons,get_cons,← hsame]
    by_cases hother:other=key
    · rw [if_pos hother,if_pos hother]
    · rw [if_neg hother,if_neg hother,if_neg hother]
  · rw [if_neg hsame,get_cons,get_cons,ih]
    by_cases hmember:other=member.1
    · rw [if_pos hmember,if_pos hmember,if_neg fun hother=>hsame (hother.symm.trans hmember)]
    · rw [if_neg hmember,if_neg hmember]

inductive Document where
 | missing
 /-- Not JSON, or the root value. -/
 | file (root:Option JsonValue)

inductive ConfigError where
 | invalidJson
 | rootNotObject
 | cursorNotObject
 /-- A directory, a temporary file or its replacement. -/
 | failed
 deriving DecidableEq

def setCursorMember (key:String) (value:JsonValue) (document:Document) : Except ConfigError JsonValue :=
 let root:=match document with
  | .missing=>some (JsonValue.object [])
  | .file root=>root
 match root with
 | none=>.error .invalidJson
 | some (.object members)=>
  match ((JsonValue.object members).get "cursor").getD (.object []) with
  | .object cursor=>
   .ok (.object (insertMember "cursor" (.object (insertMember key value cursor)) members))
  | _=>.error .cursorNotObject
 | some _=>.error .rootNotObject

/-- The rules by model, the last one for a model. -/
def routesValue (routes:List CursorModelAccountRule) : JsonValue :=
 .object (routes.foldl (fun members rule=>insertMember rule.model (.string rule.account) members)
  [])

def withRoutes (routes:List CursorModelAccountRule) (document:Document) : Except ConfigError JsonValue :=
 setCursorMember "modelAccounts" (routesValue routes) document

def withSandModels (patterns:List String) (document:Document) : Except ConfigError JsonValue :=
 setCursorMember "sandModels" (.array (patterns.map .string)) document

/-- Whether `serde` reads a value as the type of a field. -/
abbrev Fits := JsonValue → Bool

def fitsText : Fits := fun value=>value.asStr.isSome

def fitsFlag : Fits := fun value=>value.asBool.isSome

def fitsPort : Fits := fun value=>value.asU64.any (· < 65536)

def fitsOption (fits:Fits) : Option JsonValue → Bool
 | none=>true
 | some .null=>true
 | some value=>fits value

/-- A struct is read from its members, or from its fields in order. -/
def fitsStruct (fields:List (String×Fits)) : Fits
 | .object members=>fields.all fun field=>fitsOption field.2 ((JsonValue.object members).get field.1)
 | .array items=>items.length=fields.length &&
  (fields.zip items).all fun (field,item)=>fitsOption field.2 (some item)
 | _=>false

def isNull : JsonValue → Bool
 | .null=>true
 | _=>false

def fieldOf (fields:List (String×Fits)) (key:String) : JsonValue → Option JsonValue
 | .object members=>((JsonValue.object members).get key).filter fun value=>!isNull value
 | .array items=>(((fields.zip items).find? fun entry=>entry.1.1=key).map Prod.snd).filter
  fun value=>!isNull value
 | _=>none

def allSome {α:Type} : List (Option α) → Option (List α)
 | []=>some []
 | none::_=>none
 | some value::values=>(allSome values).map (value :: ·)

/-- `CursorModelAccountRule` from its members, or from an array of both. -/
def ruleOf : JsonValue → Option CursorModelAccountRule
 | .object members=>(((JsonValue.object members).get "model").bind JsonValue.asStr).bind fun model=>
  (((JsonValue.object members).get "account").bind JsonValue.asStr).map fun account=>
   ⟨model,account⟩
 | .array [.string model,.string account]=>some ⟨model,account⟩
 | _=>none

/-- `ModelAccountsConfig::into_rules`: from an object by model, or from a list of rules. -/
def modelAccounts : JsonValue → Option (List CursorModelAccountRule)
 | .object members=>allSome (members.map fun member=>
  member.2.asStr.map fun account=>⟨member.1,account⟩)
 | .array items=>allSome (items.map ruleOf)
 | _=>none

def fitsSandModels : Fits
 | .array items=>items.all fitsText
 | value=>fitsText value

def cursorFields : List (String×Fits) := [("baseUrl",fitsText),("sandBaseUrl",fitsText),("clientVersion",fitsText),
 ("clientType",fitsText),("clientLayout",fitsText),("clientOsVersion",fitsText),
 ("canary",fitsFlag),("configVersion",fitsText),("sandClientVersion",fitsText),
 ("localClientMode",fitsFlag),("clientCommit",fitsText),("ghostMode",fitsFlag),
 ("newOnboardingCompleted",fitsFlag),("timezone",fitsText),("agentBundle",fitsText),
 ("sandModels",fitsSandModels),("modelAccounts",fun value=>(modelAccounts value).isSome)]

def logFields : List (String×Fits) := [("verbose",fitsFlag),("stderr",fitsFlag)]

def kimiFields : List (String×Fits) :=
 [("userAgent",fitsText),("oauthHost",fitsText),("baseUrl",fitsText)]

def codexFields : List (String×Fits) := [("baseUrl",fitsText),("originator",fitsText),("userAgent",fitsText),
 ("previousResponseId",fitsFlag),("serviceTier",fitsText),("reasoningSummary",fitsText),
 ("effort",fitsText),("model",fitsText),("transport",fitsText)]

def grokFields : List (String×Fits) := [("baseUrl",fitsText),("clientVersion",fitsText)]

def configFields : List (String×Fits) := [("bindAddress",fitsText),("port",fitsPort),("aliasProvider",fitsText),
 ("log",fitsStruct logFields),("kimi",fitsStruct kimiFields),("codex",fitsStruct codexFields),
 ("cursor",fitsStruct cursorFields),("grok",fitsStruct grokFields)]

def readFileConfig : Document → Option JsonValue
 | .file (some root)=>if fitsStruct configFields root then some root else none
 | _=>none

def configuredRules (document:Document) : List CursorModelAccountRule :=
 ((((readFileConfig document).bind (fieldOf configFields "cursor")).bind
  (fieldOf cursorFields "modelAccounts")).bind modelAccounts).getD []

/-- `cursor_account_routing_policy`; the rules of the environment take precedence. -/
def routingPolicy (environment:Option (List CursorModelAccountRule)) (document:Document) :
 List CursorModelAccountRule :=
 newPolicy (environment.getD (configuredRules document))

end CursorProxy.ModelRoutes
