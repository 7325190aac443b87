import CursorProxy.CodexOrderly

namespace CursorProxy.CodexSearches
open CursorProxy.JsonValues CodexReducer CodexWellFormed CodexOrderly XmlElements CautiousScan

structure WebSearchResult where
 title : Text
 url : Text
deriving DecidableEq

def cleanUrl (value:Text) : Text :=
 (trim value).rdropWhile ['.',',',';',':','!','?'].contains

def beforeWord (word text:Text) : Option Text :=
 (find word text).map fun place=>trim (text.take place)

def cleanTitle (value:Text) : Text :=
 let opened:=(trimStart value).dropWhile fun char=>
  ['-','*','+'].contains char||char.isDigit
 let bare:=opened.dropWhile ['.',')',' '].contains
 let noMarkers:=trim (replace ['`'] [] 0 (replace ['*','*'] [] 0 bare))
 (beforeWord " - ".toList noMarkers <|> beforeWord " – ".toList noMarkers).getD noMarkers

/-- `trim_start_matches` of a word; a text has no more of them than characters. -/
def trimStartMatches (word:Text) : ℕ → Text → Text
 | 0,text=>text
 | fuel+1,text=>
  if word.isPrefixOf text then trimStartMatches word fuel (text.drop word.length) else text

def fallbackTitle (url:Text) : Text :=
 let bare:=trimStartMatches "https://".toList url.length url
 (trimStartMatches "http://".toList bare.length bare).takeWhile (· != '/')

/-- The text behind `https?://`. -/
def urlFront (text:Text) : Option Text :=
 if "https://".toList.isPrefixOf text then some (text.drop 8)
 else if "http://".toList.isPrefixOf text then some (text.drop 7)
 else none

/-- A markdown link in front: its title, its URL and the text behind it. The classes leave out what
has to follow them, so that no shorter match is tried. -/
def matchLink : Text → Option (Text×Text×Text)
 | '[' :: text=>
  let inTitle:=fun char=>char != ']' && char != '\n'
  let inUrl:=fun char=>char != ')' && !isSpace char
  match (text.takeWhile inTitle).isEmpty,text.dropWhile inTitle with
  | false, ']' :: '(' :: target=>
   (urlFront target).bind fun host=>
    match (host.takeWhile inUrl).isEmpty,host.dropWhile inUrl with
    | false, ')' :: rest=>
     some (text.takeWhile inTitle,target.take (target.length-host.length)++host.takeWhile inUrl,rest)
    | _,_=>none
  | _,_=>none
 | _=>none

def matchUrl (text:Text) : Option (Text×Text) :=
 let inUrl:=fun char=>!isSpace char&&!(['<','>','(',')','|'] : List Char).contains char
 (urlFront text).bind fun host=>
  if (host.takeWhile inUrl).isEmpty then none
  else some (text.take (text.length-host.length)++host.takeWhile inUrl,host.dropWhile inUrl)

def matchesOf {α:Type} (expression:Text → Option (α×Text)) : ℕ → Text → List α
 | _,[]=>[]
 | skip+1,_::text=>matchesOf expression skip text
 | 0,char::text=>
  match expression (char::text) with
  | some (found,rest)=>found::matchesOf expression (text.length-rest.length) text
  | none=>matchesOf expression 0 text

def addResult (title:Text) (value:Text) (results:List WebSearchResult) : List WebSearchResult :=
 let url:=cleanUrl value
 if url.isEmpty||results.any (·.url==url) then results
 else results++[⟨if title.isEmpty then fallbackTitle url else title,url⟩]

def extractWebSearchResultsFromText (text:Text) : List WebSearchResult :=
 let links:=matchesOf (fun text=>(matchLink text).map fun (title,url,rest)=>
  ((title,url),rest)) 0 text
 let listed:=links.foldl (fun results link=>addResult (cleanTitle link.1) link.2 results) []
 (matchesOf matchUrl 0 text).foldl (fun results url=>addResult [] url results) listed

inductive WebSearchCompatContent where
 | serverToolUse (id name query:String)
 | webSearchToolResult (toolUseId:String) (content:List WebSearchResult)
deriving DecidableEq

structure WebSearchCompatBlock where
 index : ℕ
 content : WebSearchCompatContent
deriving DecidableEq

def compatBlocks (results:List WebSearchResult) : ReducerEvent → List WebSearchCompatBlock
 | .webSearch index resultIndex id query=>
  [⟨index,.serverToolUse id "web_search" query⟩,⟨resultIndex,.webSearchToolResult id results⟩]
 | _=>[]

def buildWebSearchCompatBlocks (searches:List ReducerEvent) (text:Text) : List WebSearchCompatBlock :=
 searches.flatMap (compatBlocks (extractWebSearchResultsFromText text))

/-- A message has its blocks in the order of their indices. -/
def byIndex (blocks:List WebSearchCompatBlock) : List WebSearchCompatBlock :=
 blocks.insertionSort fun first second=>first.index ≤ second.index

def isWebSearch : ReducerEvent → Bool
 | .webSearch _ _ _ _=>true
 | _=>false

def isContentEvent : ReducerEvent → Bool
 | .thinkingStart _ | .thinkingDelta _ _ | .thinkingSignature _ _ | .thinkingStop _
 | .textStart _ | .textDelta _ _ | .textStop _ | .toolStart _ _ _ | .toolDelta _ _
 | .toolStop _=>true
 | _=>false

def textPart : ReducerEvent → Option String
 | .textDelta _ text=>some text
 | _=>none

def joined (parts:List String) : Text := parts.flatMap String.toList

/-- What `accumulate_response` keeps for its searches. -/
structure Accumulated where
 webSearchEvents : List ReducerEvent
 deferredTextParts : List String

def Accumulated.hear (acc:Accumulated) (event:ReducerEvent) : Accumulated :=
 match event with
 | .webSearch _ _ _ _=>{ acc with webSearchEvents := acc.webSearchEvents++[event] }
 | .textDelta _ text=>{ acc with deferredTextParts := acc.deferredTextParts++[text] }
 | _=>acc

def accumulateResponse (events:List ReducerEvent) : List WebSearchCompatBlock :=
 let acc:=events.foldl Accumulated.hear ⟨[],[]⟩
 if acc.webSearchEvents.isEmpty then []
 else buildWebSearchCompatBlocks acc.webSearchEvents (joined acc.deferredTextParts)

/-- What `translate_stream_bytes` keeps for its searches, and the blocks it has emitted for them. -/
structure Translating where
 webSearchEvents : List ReducerEvent
 deferredContentEvents : List ReducerEvent
 emitted : List WebSearchCompatBlock

def Translating.hear (state:Translating) (event:ReducerEvent) : Translating :=
 if isWebSearch event then { state with webSearchEvents := state.webSearchEvents++[event] }
 else if !state.webSearchEvents.isEmpty&&isContentEvent event then
  { state with deferredContentEvents := state.deferredContentEvents++[event] }
 else if isFinish event&&!state.webSearchEvents.isEmpty then
  { state with
    emitted := state.emitted++buildWebSearchCompatBlocks state.webSearchEvents
     (joined (state.deferredContentEvents.filterMap textPart)) }
 else state

def translateStream (events:List ReducerEvent) : List WebSearchCompatBlock :=
 (events.foldl Translating.hear ⟨[],[],[]⟩).emitted

section readers
variable {events:List ReducerEvent}

def textOf (events:List ReducerEvent) : Text := joined (events.filterMap textPart)

def behindSearch (events:List ReducerEvent) : List ReducerEvent :=
 events.dropWhile fun event=>!isWebSearch event

theorem foldl_accumulated (searches:List ReducerEvent) (parts:List String) :
  events.foldl Accumulated.hear ⟨searches,parts⟩ =
   ⟨searches++events.filter isWebSearch,parts++events.filterMap textPart⟩:=by
 induction events generalizing searches parts with
 | nil=>
  rw [List.foldl_nil,List.filter_nil,List.filterMap_nil,List.append_nil,List.append_nil]
 | cons event events ih=>
  rw [List.foldl_cons]
  cases event with
  | webSearch index resultIndex id query=>
   refine (ih _ _).trans ?_
   rw [List.append_assoc]
   rfl
  | textDelta index text=>
   refine (ih _ _).trans ?_
   rw [List.append_assoc]
   rfl
  | thinkingStart | thinkingDelta | thinkingSignature | thinkingStop | textStart | textStop
  | toolStart | toolDelta | toolStop | toolProgress | progress | finish=>exact ih _ _

theorem foldl_deferred {searches deferred:List ReducerEvent} {emitted:List WebSearchCompatBlock} (hsearches:searches≠[])
  (hends:∀ event∈events,isFinish event=false) :
  events.foldl Translating.hear ⟨searches,deferred,emitted⟩ =
   ⟨searches++events.filter isWebSearch,deferred++events.filter isContentEvent,emitted⟩:=by
 induction events generalizing searches deferred with
 | nil=>rw [List.foldl_nil,List.filter_nil,List.filter_nil,List.append_nil,List.append_nil]
 | cons event events ih=>
  have hrest:∀ event∈events,isFinish event=false :=
   fun event hmem=>hends event (List.mem_cons_of_mem _ hmem)
  have hfinish:=hends event List.mem_cons_self
  have hheld:searches.isEmpty=false:=List.isEmpty_eq_false_iff.mpr hsearches
  rw [List.foldl_cons]
  unfold Translating.hear at ih ⊢
  dsimp only
  rw [hheld,hfinish,Bool.not_false,Bool.true_and,Bool.false_and]
  cases hsearch:isWebSearch event with
  | true=>
   have hplain:isContentEvent event=false:=by
    cases event <;> first | rfl | exact nomatch hsearch
   rw [if_pos rfl,ih (List.append_ne_nil_of_right_ne_nil _ (List.cons_ne_nil _ _)) hrest,
    List.filter_cons_of_pos hsearch,List.filter_cons_of_neg (by simp [hplain]),
    List.append_assoc]
   rfl
  | false=>
   cases hcontent:isContentEvent event with
   | true=>
    rw [if_neg Bool.false_ne_true,if_pos rfl,ih hsearches hrest,
     List.filter_cons_of_pos hcontent,List.filter_cons_of_neg (by simp [hsearch]),
     List.append_assoc]
    rfl
   | false=>
    rw [if_neg Bool.false_ne_true,if_neg Bool.false_ne_true,if_neg Bool.false_ne_true,
     ih hsearches hrest,List.filter_cons_of_neg (by simp [hsearch]),
     List.filter_cons_of_neg (by simp [hcontent])]

theorem foldl_translating (hends:∀ event∈events,isFinish event=false) :
  events.foldl Translating.hear ⟨[],[],[]⟩ =
   ⟨events.filter isWebSearch,(behindSearch events).filter isContentEvent,[]⟩:=by
 induction events with
 | nil=>rfl
 | cons event events ih=>
  have hrest:∀ event∈events,isFinish event=false :=
   fun event hmem=>hends event (List.mem_cons_of_mem _ hmem)
  have hfinish:=hends event List.mem_cons_self
  rw [List.foldl_cons]
  unfold behindSearch at ih ⊢
  cases hsearch:isWebSearch event with
  | true=>
   have hplain:isContentEvent event=false:=by
    cases event <;> first | rfl | exact nomatch hsearch
   have hstate:Translating.hear ⟨[],[],[]⟩ event=⟨[event],[],[]⟩:=by
    unfold Translating.hear
    rw [if_pos hsearch]
    rfl
   rw [hstate,foldl_deferred (List.cons_ne_nil _ _) hrest,List.filter_cons_of_pos hsearch,
    List.dropWhile_cons_of_neg (by simp [hsearch]),
    List.filter_cons_of_neg (by simp [hplain])]
   rfl
  | false=>
   have hstate:Translating.hear ⟨[],[],[]⟩ event=⟨[],[],[]⟩:=by
    unfold Translating.hear
    rw [if_neg (by simp [hsearch]),if_neg (by simp),if_neg (by simp [hfinish])]
   rw [hstate,ih hrest,List.filter_cons_of_neg (by simp [hsearch]),
    List.dropWhile_cons_of_pos (by simp [hsearch])]

theorem textPart_content (events:List ReducerEvent) :
  (events.filter isContentEvent).filterMap textPart=events.filterMap textPart:=by
 induction events with
 | nil=>rfl
 | cons event events ih=>
  cases event with
  | textDelta index text=>
   have hpart:textPart (.textDelta index text)=some text:=rfl
   rw [List.filter_cons_of_pos rfl,List.filterMap_cons_some hpart,List.filterMap_cons_some hpart,ih]
  | thinkingStart | thinkingDelta | thinkingSignature | thinkingStop | textStart | textStop
  | toolStart | toolDelta | toolStop | toolProgress | progress | webSearch | finish=>exact ih

end readers

section run
variable {env:CodexEnv} {state:ReducerState}

def Unfinished (events:List ReducerEvent) : Prop := ∀ event∈events,isFinish event=false

theorem Unfinished.say {events:List ReducerEvent} (h:Unfinished events)
  {event:ReducerEvent} (hevent:isFinish event=false) : Unfinished (events++[event]):=by
 intro other hother
 obtain hmem | hlast:=List.mem_append.mp hother
 · exact h other hmem
 · rw [List.mem_singleton.mp hlast]
   exact hevent

theorem not_finish_inside {desk:Desk} {event:ReducerEvent} (h:Inside desk event) : isFinish event=false:=by
 cases event <;> first | rfl | exact h.elim

theorem not_finish_starts {entry:BlockKind×ℕ} {event:ReducerEvent} (h:Starts entry event) : isFinish event=false:=by
 cases event <;> first | rfl | exact h.elim

theorem not_finish_stops {entry:BlockKind×ℕ} {event:ReducerEvent} (h:Stops entry event) : isFinish event=false:=by
 cases event <;> first | rfl | exact h.elim

theorem step_unfinished {before after:Desk} (hstep:DeskStep before after)
  (h:Unfinished before.out) : Unfinished after.out:=by
 cases hstep with
 | inside event hinside=>exact h.say (not_finish_inside hinside)
 | startThinking hidle=>exact h.say rfl
 | stopThinking hthinking=>exact h.say rfl
 | openBlock hfree hstarts=>exact h.say (not_finish_starts hstarts)
 | closeBlock hblock hstops=>exact h.say (not_finish_stops hstops)
 | webSearch id query=>exact h.say rfl

theorem run_unfinished {before after:Desk} (hrun:DeskRun before after)
  (h:Unfinished before.out) : Unfinished after.out:=by
 induction hrun with
 | refl=>exact h
 | tail _ hstep ih=>exact step_unfinished hstep ih

/-- The end of an answer is its one `finish`. -/
def EndsOnce (out:List ReducerEvent) : Prop :=
 ∃ front finish,out=front++[finish] ∧ isFinish finish=true ∧ Unfinished front

theorem reduceAll_endsOnce (payloads:List JsonValue) {out:List ReducerEvent} :
  ∀ {state:ReducerState},Unfinished state.out → reduceAll env state payloads=.ok out → EndsOnce out:=by
 induction payloads with
 | nil=>
  intro state h hout
  obtain ⟨-,finish,hfinish,rfl⟩:=finishReduction_ok hout
  exact ⟨_,finish,rfl,hfinish,run_unfinished (closeThinking_run env state).1 h⟩
 | cons payload payloads ih=>
  intro state h hout
  unfold reduceAll at hout
  cases hevent:reduceEvent env state payload with
  | error error=>
   rw [hevent] at hout
   cases hout
  | ok outcome=>
   rw [hevent] at hout
   have hnoted:Unfinished (desk (noteEvent state (strField "type" payload))).out:=h
   cases event_reduces hevent with
   | kept hrun hkept hgoing=>exact ih (run_unfinished hrun h) hout
   | replaced hopens hblock hreplaces=>
    obtain ⟨kind,event,hstarts,hnext⟩:=hopens.opens
    refine ih ?_ hout
    have hclosed:=run_unfinished (closeThinking_run env (noteEvent state (strField "type" payload))).1 hnoted
    have hsaid:(desk _).out=_:=congrArg Desk.out hnext
    change Unfinished (desk _).out
    rw [hsaid]
    exact hclosed.say (not_finish_starts hstarts)
   | repaired hfinish hrun hrepairs=>
    obtain rfl:=Except.ok.inj hout
    exact ⟨_,_,rfl,hfinish,run_unfinished hrun h⟩

end run

section blocks
variable {out:List ReducerEvent}

theorem finish_only {finish:ReducerEvent} (h:isFinish finish=true) :
  isWebSearch finish=false ∧ textPart finish=none:=by
 cases finish <;> first | exact ⟨rfl,rfl⟩ | exact nomatch h

theorem accumulateResponse_eq (out:List ReducerEvent) :
  accumulateResponse out=buildWebSearchCompatBlocks (out.filter isWebSearch) (textOf out):=by
 unfold accumulateResponse
 rw [foldl_accumulated]
 dsimp only
 rw [List.nil_append,List.nil_append]
 split_ifs with hnone
 · rw [List.isEmpty_iff.mp hnone]
   rfl
 · rfl

theorem dropWhile_last {front:List ReducerEvent} {finish:ReducerEvent} (h:isWebSearch finish=false) :
  (behindSearch (front++[finish])).filterMap textPart =
   (behindSearch front).filterMap textPart++if front.any isWebSearch then
    [finish].filterMap textPart else []:=by
 unfold behindSearch
 induction front with
 | nil=>
  rw [List.nil_append,List.dropWhile_cons_of_pos (by simp [h])]
  rfl
 | cons event front ih=>
  rw [List.cons_append]
  cases hsearch:isWebSearch event with
  | true=>
   rw [List.dropWhile_cons_of_neg (by simp [hsearch]),
    List.dropWhile_cons_of_neg (by simp [hsearch]),← List.cons_append,List.filterMap_append,
    List.any_cons,hsearch,Bool.true_or,if_pos rfl]
  | false=>
   rw [List.dropWhile_cons_of_pos (by simp [hsearch]),
    List.dropWhile_cons_of_pos (by simp [hsearch]),ih,List.any_cons,hsearch,Bool.false_or]

theorem translateStream_eq (h:EndsOnce out) :
  translateStream out = buildWebSearchCompatBlocks (out.filter isWebSearch) (textOf (behindSearch out)):=by
 obtain ⟨front,finish,rfl,hfinish,hfront⟩:=h
 obtain ⟨hsearch,hpart⟩:=finish_only hfinish
 have hlast : [finish].filterMap textPart=[]:=List.filterMap_cons_none hpart
 have htext:textOf (behindSearch (front++[finish]))=textOf (behindSearch front):=by
  unfold textOf
  rw [dropWhile_last hsearch,hlast,ite_self,List.append_nil]
 have hsearches:(front++[finish]).filter isWebSearch=front.filter isWebSearch:=by
  rw [List.filter_append,List.filter_cons_of_neg (by simp [hsearch]),List.filter_nil,
   List.append_nil]
 rw [htext,hsearches]
 unfold translateStream
 rw [List.foldl_append,foldl_translating hfront,List.foldl_cons,List.foldl_nil]
 have hplain:isContentEvent finish=false:=by
  cases finish <;> first | rfl | exact nomatch hfinish
 unfold Translating.hear textOf
 dsimp only
 rw [hsearch,hplain,hfinish,if_neg Bool.false_ne_true,Bool.and_false,
  if_neg Bool.false_ne_true,Bool.true_and,textPart_content]
 cases hnone:(front.filter isWebSearch).isEmpty with
 | true=>
  rw [if_neg (by decide),List.isEmpty_iff.mp hnone]
  rfl
 | false=>
  rw [if_pos (by decide)]
  rfl

theorem mem_build {searches:List ReducerEvent} {text:Text} {index:ℕ} {id:String}
  {results:List WebSearchResult} (h:(⟨index,.webSearchToolResult id results⟩ :
   WebSearchCompatBlock)∈buildWebSearchCompatBlocks searches text) :
  results=extractWebSearchResultsFromText text:=by
 obtain ⟨event,-,hblock⟩:=List.mem_flatMap.mp h
 cases event with
 | webSearch index' resultIndex id' query=>
  obtain hfirst | hblock:=List.mem_cons.mp hblock
  · exact nomatch (WebSearchCompatBlock.mk.inj hfirst).2
  · exact (WebSearchCompatContent.webSearchToolResult.inj
     (WebSearchCompatBlock.mk.inj (List.mem_singleton.mp hblock)).2).2
 | thinkingStart | thinkingDelta | thinkingSignature | thinkingStop | textStart | textDelta
 | textStop | toolStart | toolDelta | toolStop | toolProgress | progress | finish=>
  exact absurd hblock List.not_mem_nil

/-- The searches of an answer are the same, streamed and at once, just if there is none, or the text
behind the first one shows the links of the whole text. -/
theorem searches_agree_iff (env:CodexEnv) (events:List String) (out:List ReducerEvent)
    (h:reduceUpstream env events=.ok out) :
    byIndex (translateStream out)=byIndex (accumulateResponse out) ↔
      out.any isWebSearch=false ∨
        extractWebSearchResultsFromText (textOf (behindSearch out)) = extractWebSearchResultsFromText (textOf out):=by
  have hends:EndsOnce out :=
    reduceAll_endsOnce _ (show Unfinished [] from List.forall_mem_nil _) h
  rw [translateStream_eq hends,accumulateResponse_eq]
  constructor
  · intro hsame
    refine or_iff_not_imp_left.mpr fun hany=>?_
    obtain ⟨search,hmem,hsearch⟩:=List.any_eq_true.mp (Bool.eq_true_of_not_eq_false hany)
    obtain ⟨index,resultIndex,id,query,rfl⟩ : ∃ index resultIndex id query,
        search=.webSearch index resultIndex id query:=by
      cases search <;> first | exact ⟨_,_,_,_,rfl⟩ | exact nomatch hsearch
    have hstreamed:(⟨resultIndex,.webSearchToolResult id (extractWebSearchResultsFromText
        (textOf (behindSearch out)))⟩ : WebSearchCompatBlock)∈buildWebSearchCompatBlocks
          (out.filter isWebSearch) (textOf (behindSearch out)) :=
      List.mem_flatMap.mpr ⟨_,List.mem_filter.mpr ⟨hmem,hsearch⟩,List.mem_cons_of_mem _ List.mem_cons_self⟩
    have hsorted:=(List.mem_insertionSort fun first second : WebSearchCompatBlock=>
      first.index ≤ second.index).mpr hstreamed
    unfold byIndex at hsame
    rw [hsame] at hsorted
    exact mem_build ((List.mem_insertionSort _).mp hsorted)
  · rintro (hnone | hlinks)
    · have hfilter:out.filter isWebSearch=[]:=by
        refine List.filter_eq_nil_iff.mpr fun event hevent hsearch=>?_
        exact absurd (List.any_eq_true.mpr ⟨event,hevent,hsearch⟩) (Bool.eq_false_iff.mp hnone)
      rw [hfilter]
      rfl
    · unfold buildWebSearchCompatBlocks
      rw [hlinks]

end blocks


def linkText : String :=
 "\x7b\"type\":\"response.output_text.delta\",\"output_index\":0,\"delta\":\"[a](http://a)\"\x7d"

def linkPayload : JsonValue :=
 .object [("delta",.string "[a](http://a)"),("output_index",.number "0"),("type",.string "response.output_text.delta")]

def searchText : String :=
 "\x7b\"type\":\"response.output_item.done\",\"output_index\":1,\"item\":" ++
  "\x7b\"type\":\"web_search_call\",\"id\":\"ws\",\"action\":\x7b\"query\":\"q\"\x7d\x7d\x7d"

def searchPayload : JsonValue :=
 .object [("item",.object [("action",.object [("query",.string "q")]),("id",.string "ws"),
  ("type",.string "web_search_call")]),("output_index",.number "1"),("type",.string "response.output_item.done")]

def searchEnv : CodexEnv := { messageEnv with
 fromStr := fun text=>List.lookup text [(addedText,addedPayload),(linkText,linkPayload),
  (doneText,donePayload),(searchText,searchPayload),(completedText,completedPayload)] }

def searchEnd : ReducerEvent :=
 .finish stopEndTurn "response.completed" true none 1 none [.message "assistant" [.outputText "[a](http://a)"]]

theorem searchEnv_reads : payloadOf searchEnv addedText=some addedPayload ∧
  payloadOf searchEnv linkText=some linkPayload ∧
   payloadOf searchEnv doneText=some donePayload ∧
    payloadOf searchEnv searchText=some searchPayload ∧
     payloadOf searchEnv completedText=some completedPayload:=by
 have henv:searchEnv.fromStr=fun text=>List.lookup text [(addedText,addedPayload),
   (linkText,linkPayload),(doneText,donePayload),(searchText,searchPayload),
   (completedText,completedPayload)] := rfl
 have hreads:=payloadOf_table henv (by
  unfold addedText linkText doneText searchText completedText
  simp -index only [List.map_cons,List.map_nil,String.toList_append,String.toList_ofList]
  decide +kernel) (by
  unfold addedText linkText doneText searchText completedText
  simp -index only [List.map_cons,List.map_nil,String.toList_append,String.toList_ofList]
  decide +kernel)
 exact ⟨hreads (addedText,addedPayload) (by simp),hreads (linkText,linkPayload) (by simp),
  hreads (doneText,donePayload) (by simp),hreads (searchText,searchPayload) (by simp),
  hreads (completedText,completedPayload) (by simp)⟩

def searchFirst : List ReducerEvent :=
 [.webSearch 0 1 "srvtoolu_ws" "q",.textStart 2,.textDelta 2 "[a](http://a)",.textStop 2,searchEnd]

def searchLast : List ReducerEvent :=
 [.textStart 0,.textDelta 0 "[a](http://a)",.textStop 0,.webSearch 1 2 "srvtoolu_ws" "q",searchEnd]

theorem searches_agree_behind : byIndex (translateStream searchFirst)=byIndex (accumulateResponse searchFirst):=by
  obtain ⟨hadded,hlink,hdone,hsearch,hcompleted⟩:=searchEnv_reads
  refine (searches_agree_iff searchEnv [searchText,addedText,linkText,doneText,completedText]
    searchFirst ?_).mpr (.inr rfl)
  unfold reduceUpstream
  rw [List.filterMap_cons_some hsearch,List.filterMap_cons_some hadded,
    List.filterMap_cons_some hlink,List.filterMap_cons_some hdone,
    List.filterMap_cons_some hcompleted,List.filterMap_nil]
  rfl

/-- The link in front of the search is listed only when the answer is put together at once. -/
theorem link_before_search_lost :
    reduceUpstream searchEnv [addedText,linkText,doneText,searchText,completedText] = .ok searchLast ∧
      byIndex (translateStream searchLast)≠byIndex (accumulateResponse searchLast):=by
  obtain ⟨hadded,hlink,hdone,hsearch,hcompleted⟩:=searchEnv_reads
  refine ⟨?_,?_⟩
  · unfold reduceUpstream
    rw [List.filterMap_cons_some hadded,List.filterMap_cons_some hlink,
      List.filterMap_cons_some hdone,List.filterMap_cons_some hsearch,
      List.filterMap_cons_some hcompleted,List.filterMap_nil]
    rfl
  · decide +kernel

end CursorProxy.CodexSearches
