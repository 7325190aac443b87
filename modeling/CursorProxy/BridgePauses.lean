import CursorProxy.BridgeModel
import CursorProxy.XmlLeaks

/-! The messages of a bridge show what one parser shows that takes all text in order, as long as
the parser gives the texts that were queued at a pause back as they are. -/
namespace CursorProxy.BridgePauses
open StreamingLoop JsonValues SandModel XmlElements XmlParser XmlScanning XmlGaps XmlRuns XmlLeaks
 XmlVisibleText SseFramer BridgeModel Bridge

variable {env:BridgeEnv} {parser:CursorToolUseXmlParser}

/-- A character of the visible text, or a tool with its input. -/
inductive Item where
 | char (char:Char)
 | tool (name inputJson:String)
 deriving DecidableEq

structure Shown where
 items : List Item
 finished : Bool

/-- A message shows nothing more once it is finished. -/
def Shown.add (shown:Shown) : FramerCall → Shown
 | .emitTextDelta text=>
  if shown.finished then shown else { shown with items := shown.items++text.map .char }
 | .emitToolPause _ name inputJson=>
  if shown.finished then shown else ⟨shown.items++[.tool name inputJson],true⟩
 | .finalize=>{ shown with finished := true }
 | _=>shown

def shownBy (calls:List FramerCall) : Shown := calls.foldl Shown.add ⟨[],false⟩

def messageItems (calls:List FramerCall) : List Item := (shownBy calls).items

def toolItems (env:BridgeEnv) (name:String) (input:JsonValue) : List Item :=
 match env.resolve name with
 | none=>[]
 | some emitName=>[.tool emitName (env.inputJson emitName input)]

def recoveredItems (env:BridgeEnv) : RecoveredCursorEvent → List Item
 | .text text=>text.map .char
 | .toolUse tool=>toolItems env tool.name (.object tool.input)

def itemsOf (env:BridgeEnv) (events:List RecoveredCursorEvent) : List Item :=
 events.flatMap (recoveredItems env)

/-- One parser takes the texts, and the native tools stand where they are. -/
def uninterrupted (env:BridgeEnv) : CursorToolUseXmlParser → List CursorStreamEvent → List Item
 | parser,[]=>itemsOf env (parser.flush env.xml).2
 | parser, .textDelta text::events=>
  itemsOf env (parser.push env.xml text.toList).2 ++ uninterrupted env (parser.push env.xml text.toList).1 events
 | parser, .nativeTool _ name input::events=>
  toolItems env name input++uninterrupted env parser events
 | parser,_::events=>uninterrupted env parser events

/-- The parser shows the text at once and is as before. -/
def GivenBack (env:BridgeEnv) (parser:CursorToolUseXmlParser) (text:Text) : Prop :=
 (parser.push env.xml text).1=parser ∧ itemsOf env (parser.push env.xml text).2=text.map .char

def behindTool (env:BridgeEnv) : List RecoveredCursorEvent → Option (List RecoveredCursorEvent)
 | []=>none
 | .text _::events=>behindTool env events
 | .toolUse tool::events=>
  if (env.resolve tool.name).isSome then some events else behindTool env events

def endsWithTool (env:BridgeEnv) : List RecoveredCursorEvent → Bool
 | []=>false
 | [.toolUse tool]=>(env.resolve tool.name).isSome
 | _::events=>endsWithTool env events

/-- Neither text nor a tool that the client knows. -/
def Idle (env:BridgeEnv) : CursorStreamEvent → Prop
 | .textDelta text=>text = ""
 | .nativeTool _ name _=>env.resolve name=none
 | _=>True

/-- The parser gives back what is queued at a pause, holds nothing to show at a tool behind
which there are no events, and nothing follows the end. -/
def Kept (env:BridgeEnv) : CursorToolUseXmlParser → List CursorStreamEvent → Prop
 | _,[]=>True
 | parser, .textDelta text::events=>
  let pushed:=parser.push env.xml text.toList
  (∀ late,behindTool env pushed.2=some late → ∀ text, .text text∈late → GivenBack env pushed.1 text) ∧
  (events=[] → endsWithTool env pushed.2=true → itemsOf env (pushed.1.flush env.xml).2=[]) ∧
  Kept env pushed.1 events
 | parser, .nativeTool _ name _::events=>
  (events=[] → (env.resolve name).isSome → itemsOf env (parser.flush env.xml).2=[]) ∧ Kept env parser events
 | _, .end::events=>∀ event∈events,Idle env event
 | parser,_::events=>Kept env parser events

theorem extend_nil (parser:CursorToolUseXmlParser) : parser.extend []=parser:=by
 unfold CursorToolUseXmlParser.extend
 rw [List.append_nil]

variable {xml:XmlEnv}

theorem push_nil (h:Settled xml parser) : parser.push xml []=(parser,[]):=by
 have hrun:(drain xml false).run parser=⟨parser,[],()⟩:=by
  rcases h.waits with hnone | hwaits
  · exact run_held parser hnone h.held
  · exact (drain xml false).run_done hwaits
 unfold CursorToolUseXmlParser.push
 rw [extend_nil,hrun]

theorem flush_settled (h:Settled xml parser) :
  (parser.flush xml).1.buffer=[] ∧ ∀ event∈(parser.flush xml).2,∃ text,event=.text text:=by
 have htext:∀ recovered text,∀ event∈pushText recovered text,∃ text,event=.text text:=by
  intro recovered text event hevent
  unfold pushText at hevent
  split_ifs at hevent
  · exact absurd hevent List.not_mem_nil
  · exact absurd hevent List.not_mem_nil
  · exact ⟨text,List.mem_singleton.mp hevent⟩
 have hdone:∀ last events,drainBody xml true parser=.done last events () → parser.flush xml=(last,events):=by
  intro last events hbody
  unfold CursorToolUseXmlParser.flush
  rw [(drain xml true).run_done hbody]
 cases hnext:nextXmlToolStart parser.buffer with
 | none=>
  by_cases hempty:parser.buffer.isEmpty=true
  · rw [hdone parser [] (if_pos hempty)]
    exact ⟨List.isEmpty_iff.mp hempty,fun _ hevent=>absurd hevent List.not_mem_nil⟩
  · have hbody:drainBody xml true parser =
      .done { parser with buffer := parser.buffer.drop parser.buffer.length }
       (pushText parser.recoveredToolUse (parser.buffer.take parser.buffer.length)) ():=by
     unfold drainBody
     rw [if_neg hempty]
     simp only [settled_drop_none h,hnext,if_true,Nat.sub_zero]
    rw [hdone _ _ hbody]
    exact ⟨List.drop_length,htext _ _⟩
 | some found=>
  obtain ⟨start,kind⟩:=found
  obtain rfl:=settled_start h hnext
  have hbody:drainBody xml true parser=.done { parser with buffer:=[] }
    (if xmlTagOpenAt parser.buffer kind.openTag then []
     else pushText parser.recoveredToolUse parser.buffer) ():=by
   unfold drainBody
   rw [if_neg (nonempty_of_start hnext)]
   simp only [settled_drop_none h,hnext,settled_close h hnext,Nat.lt_irrefl,if_false,if_true]
  rw [hdone _ _ hbody]
  refine ⟨rfl,fun event hevent=>?_⟩
  split_ifs at hevent
  · exact absurd hevent List.not_mem_nil
  · exact htext _ _ event hevent

theorem drain_empty (flush:Bool) (h:parser.buffer=[]) : (drain xml flush).run parser=⟨parser,[],()⟩:=by
 refine (drain xml flush).run_done (if_pos ?_)
 rw [h]
 rfl

theorem push_empty (h:parser.buffer=[]) : parser.push xml []=(parser,[]):=by
 unfold CursorToolUseXmlParser.push
 rw [extend_nil,drain_empty false h]

theorem flush_empty (h:parser.buffer=[]) : parser.flush xml=(parser,[]):=by
 unfold CursorToolUseXmlParser.flush
 rw [drain_empty true h]

theorem shownBy_call (calls:List FramerCall) (call:FramerCall) : shownBy (calls++[call])=(shownBy calls).add call:=by
 unfold shownBy
 rw [List.foldl_append,List.foldl_cons,List.foldl_nil]

structure Live (bridge:Bridge) (parser:CursorToolUseXmlParser) (items:List Item) : Prop where
 paused : bridge.paused=false
 queue : bridge.state.remainingEvents=[]
 parser : bridge.state.xmlParser=parser
 shown : shownBy bridge.calls=⟨items,false⟩

structure Waiting (bridge:Bridge) (parser:CursorToolUseXmlParser)
  (queue:List CursorStreamEvent) (items:List Item) : Prop where
 paused : bridge.paused=true
 pending : bridge.state.pendingTool.isSome
 queue : bridge.state.remainingEvents=queue
 parser : bridge.state.xmlParser=parser
 shown : shownBy bridge.calls=⟨items,true⟩

structure Ended (bridge:Bridge) (items:List Item) : Prop where
 paused : bridge.paused=false
 buffer : bridge.state.xmlParser.buffer=[]
 shown : shownBy bridge.calls=⟨items,true⟩

variable {bridge:Bridge} {items:List Item} {queue:List CursorStreamEvent}

theorem Live.call (h:Live bridge parser items) {call:FramerCall} {more:List Item}
  (hcall:(⟨items,false⟩ : Shown).add call=⟨items++more,false⟩) : Live (bridge.call call) parser (items++more):=by
 refine ⟨h.paused,h.queue,h.parser,?_⟩
 change shownBy (bridge.calls++[call])=_
 rw [shownBy_call,h.shown,hcall]

theorem Live.silent (h:Live bridge parser items) {call:FramerCall}
  (hcall:(⟨items,false⟩ : Shown).add call=⟨items,false⟩) : Live (bridge.call call) parser items:=by
 have hsame:Live (bridge.call call) parser (items++[]) :=
  h.call (by rw [hcall,List.append_nil])
 rwa [List.append_nil] at hsame

theorem Live.text (h:Live bridge parser items) (text:Text) :
  Live (bridge.call (.emitTextDelta text)) parser (items++text.map .char) :=
 h.call rfl

theorem Live.unknown (h:Live bridge parser items) {toolUseId name:String} {input:JsonValue}
  (hname:env.resolve name=none) :
  Live (bridge.emitTool env toolUseId name input) parser (items++toolItems env name input):=by
 unfold emitTool toolItems
 rw [hname]
 dsimp only
 rwa [List.append_nil]

theorem Live.tool (h:Live bridge parser items) {name:String} (toolUseId:String)
  (input:JsonValue) (hname:(env.resolve name).isSome) :
  Waiting (bridge.emitTool env toolUseId name input) parser []
    (items++toolItems env name input) ∧ toolItems env name input≠[]:=by
 obtain ⟨emitName,hemit⟩:=Option.isSome_iff_exists.mp hname
 unfold emitTool toolItems
 rw [hemit]
 refine ⟨⟨rfl,rfl,h.queue,h.parser,?_⟩,List.cons_ne_nil _ _⟩
 change shownBy (bridge.calls++[_])=_
 rw [shownBy_call,h.shown]
 rfl

theorem Waiting.queued (h:Waiting bridge parser queue items) (event:CursorStreamEvent) :
  Waiting (bridge.queue event) parser (queue++[event]) items :=
 ⟨h.paused,h.pending,congrArg (· ++ [event]) h.queue,h.parser,h.shown⟩

theorem Waiting.recovered (h:Waiting bridge parser queue items) (events:List RecoveredCursorEvent) :
  Waiting (events.foldl (recover env) bridge) parser (queue++events.map (Bridge.queued env)) items:=by
 induction events generalizing bridge queue with
 | nil=>
  rw [List.map_nil,List.append_nil]
  exact h
 | cons event events ih=>
  have hone:bridge.recover env event=bridge.queue (Bridge.queued env event) :=
   if_pos h.paused
  have hrest:=ih (h.queued (Bridge.queued env event))
  rw [List.append_assoc,List.singleton_append] at hrest
  rw [List.foldl_cons,hone,List.map_cons]
  exact hrest

theorem Waiting.events (h:Waiting bridge parser queue items) (onEnd:Bridge → Bridge) (events:List CursorStreamEvent) :
  Waiting (events.foldl (onEvent env onEnd) bridge) parser (queue++events) items:=by
 induction events generalizing bridge queue with
 | nil=>
  rw [List.append_nil]
  exact h
 | cons event events ih=>
  have hone:bridge.onEvent env onEnd event=bridge.queue event:=if_pos h.paused
  have hrest:=ih (h.queued event)
  rw [List.append_assoc,List.singleton_append] at hrest
  rw [List.foldl_cons,hone]
  exact hrest

theorem Waiting.finish (h:Waiting bridge parser queue items) : Waiting (bridge.finish env) parser queue items:=by
 have hsame:bridge.finish env=bridge:=if_pos h.paused
 rwa [hsame]

/-- Up to the first tool that the client knows the message goes on; what is behind the tool
is queued. -/
def Recovers (env:BridgeEnv) (bridge:Bridge) (parser:CursorToolUseXmlParser)
  (items:List Item) (events:List RecoveredCursorEvent) : Prop :=
 match behindTool env events with
 | none=>Live bridge parser (items++itemsOf env events)
 | some late=>∃ front,front≠[] ∧ itemsOf env events=front++itemsOf env late ∧
   Waiting bridge parser (late.map (queued env)) (items++front)

theorem itemsOf_cons (event:RecoveredCursorEvent) (events:List RecoveredCursorEvent) :
  itemsOf env (event::events)=recoveredItems env event++itemsOf env events :=
 List.flatMap_cons

theorem Recovers.passed {event:RecoveredCursorEvent} {events:List RecoveredCursorEvent}
  (hbehind:behindTool env (event::events)=behindTool env events)
  (h:Recovers env bridge parser (items++recoveredItems env event) events) :
  Recovers env bridge parser items (event::events):=by
 unfold Recovers at h ⊢
 rw [hbehind]
 cases hlate:behindTool env events with
 | none=>
  rw [hlate] at h
  dsimp only at h ⊢
  rwa [itemsOf_cons,← List.append_assoc]
 | some late=>
  rw [hlate] at h
  obtain ⟨front,hfront,hitems,hwaiting⟩:=h
  refine ⟨recoveredItems env event++front,?_,?_,?_⟩
  · exact fun hnil=>hfront (List.append_eq_nil_iff.mp hnil).2
  · rw [itemsOf_cons,hitems,List.append_assoc]
  · rwa [← List.append_assoc]

theorem Live.recovered (env:BridgeEnv) (h:Live bridge parser items) (events:List RecoveredCursorEvent) :
  Recovers env (events.foldl (recover env) bridge) parser items events:=by
 induction events generalizing bridge items with
 | nil=>
  change Live bridge parser (items++[])
  rwa [List.append_nil]
 | cons event events ih=>
  have hone:bridge.recover env event=bridge.emitRecovered env event :=
   if_neg (Bool.eq_false_iff.mp h.paused)
  rw [List.foldl_cons,hone]
  cases event with
  | text text=>exact Recovers.passed rfl (ih (h.text text))
  | toolUse tool=>
   cases hname:env.resolve tool.name with
   | none=>
    have hbehind:behindTool env (.toolUse tool::events)=behindTool env events :=
     if_neg (Option.not_isSome_iff_eq_none.mpr hname)
    exact Recovers.passed hbehind (ih (h.unknown hname))
   | some emitName=>
    have hknown:(env.resolve tool.name).isSome:=by rw [hname]; rfl
    obtain ⟨hwaiting,hshows⟩:=h.tool (env.newId tool.id) (.object tool.input) hknown
    have hbehind:behindTool env (.toolUse tool::events)=some events:=if_pos hknown
    unfold Recovers
    rw [hbehind]
    exact ⟨_,hshows,itemsOf_cons _ _,hwaiting.recovered events⟩

theorem emitted_texts (env:BridgeEnv) {events:List RecoveredCursorEvent}
  (htexts:∀ event∈events,∃ text,event=.text text) (h:bridge.paused=false) :
  events.foldl (emitRecovered env) bridge=events.foldl (recover env) bridge:=by
 induction events generalizing bridge with
 | nil=>rfl
 | cons event events ih=>
  obtain ⟨text,rfl⟩:=htexts event List.mem_cons_self
  have hone:bridge.recover env (.text text)=bridge.emitRecovered env (.text text) :=
   if_neg (Bool.eq_false_iff.mp h)
  rw [List.foldl_cons,List.foldl_cons,hone]
  exact ih (fun event hevent=>htexts event (List.mem_cons_of_mem _ hevent)) h

theorem behindTool_texts {events:List RecoveredCursorEvent}
  (htexts:∀ event∈events,∃ text,event=.text text) : behindTool env events=none:=by
 induction events with
 | nil=>rfl
 | cons event events ih=>
  obtain ⟨text,rfl⟩:=htexts event List.mem_cons_self
  exact ih fun event hevent=>htexts event (List.mem_cons_of_mem _ hevent)

theorem Live.withParser (h:Live bridge parser items) (next:CursorToolUseXmlParser) :
  Live (bridge.withParser next) next items := ⟨h.paused,h.queue,rfl,h.shown⟩

theorem Live.finalize (h:Live bridge parser items) (hbuffer:parser.buffer=[]) :
  Ended bridge.finalizeUnlessPaused items:=by
 have hsame:bridge.finalizeUnlessPaused=bridge.call .finalize :=
  if_neg (Bool.eq_false_iff.mp h.paused)
 have hkept:(bridge.call .finalize).state.xmlParser.buffer=[]:=by
  rw [← hbuffer,← h.parser]
  rfl
 rw [hsame]
 refine ⟨h.paused,hkept,?_⟩
 change shownBy (bridge.calls++[.finalize])=_
 rw [shownBy_call,h.shown]
 rfl

theorem Live.endLater (h:Live bridge parser items) (hsettled:Settled env.xml parser) :
  Ended (bridge.endLater env) (items++itemsOf env (parser.flush env.xml).2):=by
 obtain ⟨hbuffer,htexts⟩:=flush_settled hsettled
 have hrecovered:=(h.withParser (parser.flush env.xml).1).recovered env (parser.flush env.xml).2
 unfold Recovers at hrecovered
 rw [behindTool_texts htexts] at hrecovered
 unfold Bridge.endLater
 rw [h.parser]
 exact hrecovered.finalize hbuffer

theorem Live.endFirst (h:Live bridge parser items) (hsettled:Settled env.xml parser) :
  Ended (bridge.endFirst env) (items++itemsOf env (parser.flush env.xml).2):=by
 have hemitted:=emitted_texts env (flush_settled hsettled).2 (h.withParser (parser.flush env.xml).1).paused
 have hsame:bridge.endFirst env=bridge.endLater env:=by
  unfold Bridge.endFirst Bridge.endLater
  rw [h.parser]
  exact congrArg finalizeUnlessPaused hemitted
 rw [hsame]
 exact h.endLater hsettled

theorem Ended.call (h:Ended bridge items) (call:FramerCall) : Ended (bridge.call call) items:=by
 refine ⟨h.paused,h.buffer,?_⟩
 change shownBy (bridge.calls++[call])=_
 rw [shownBy_call,h.shown]
 cases call <;> rfl

theorem Ended.flushed (h:Ended bridge items) :
  Ended (bridge.endFirst env) items ∧ Ended (bridge.endLater env) items:=by
 have hsame:bridge.withParser bridge.state.xmlParser=bridge:=rfl
 have hfinal:bridge.finalizeUnlessPaused=bridge.call .finalize :=
  if_neg (Bool.eq_false_iff.mp h.paused)
 unfold Bridge.endFirst Bridge.endLater
 rw [flush_empty h.buffer]
 dsimp only [List.foldl_nil]
 rw [hsame,hfinal]
 exact ⟨h.call .finalize,h.call .finalize⟩

/-- The two ways in which the loops end a message. -/
inductive Ending (env:BridgeEnv) : (Bridge → Bridge) → Prop where
 | first : Ending env (Bridge.endFirst env)
 | later : Ending env (Bridge.endLater env)

variable {onEnd:Bridge → Bridge}

theorem Ending.live (hend:Ending env onEnd) (h:Live bridge parser items) (hsettled:Settled env.xml parser) :
  Ended (onEnd bridge) (items++itemsOf env (parser.flush env.xml).2):=by
 cases hend with
 | first=>exact h.endFirst hsettled
 | later=>exact h.endLater hsettled

theorem Ending.ended (hend:Ending env onEnd) (h:Ended bridge items) : Ended (onEnd bridge) items:=by
 cases hend with
 | first=>exact h.flushed.1
 | later=>exact h.flushed.2

theorem Ended.events (hend:Ending env onEnd) {events:List CursorStreamEvent}
  (hidle:∀ event∈events,Idle env event) (h:Ended bridge items)
  : Ended (events.foldl (onEvent env onEnd) bridge) items:=by
 induction events generalizing bridge with
 | nil=>exact h
 | cons event events ih=>
  have hlater:=fun event hevent=>hidle event (List.mem_cons_of_mem _ hevent)
  have hlive:¬bridge.paused=true:=Bool.eq_false_iff.mp h.paused
  refine ih hlater ?_
  unfold onEvent
  rw [if_neg hlive]
  have hevent:=hidle event List.mem_cons_self
  cases event with
  | textDelta text=>
   have hnone:text.toList=[]:=by rw [show text = "" from hevent]; rfl
   dsimp only
   unfold Bridge.push
   rw [hnone,push_empty h.buffer]
   exact h
  | nativeTool toolUseId name input=>
   have hname:env.resolve name=none:=hevent
   dsimp only
   unfold emitTool
   rw [hname]
   exact h
  | «end» => exact hend.ended h
  | session=>exact h
  | _=>exact h.call _

theorem uninterrupted_idle (hsettled:Settled env.xml parser) {events:List CursorStreamEvent}
  (hidle:∀ event∈events,Idle env event) : uninterrupted env parser events=itemsOf env (parser.flush env.xml).2:=by
 induction events with
 | nil=>rfl
 | cons event events ih=>
  have hrest:=ih fun event hevent=>hidle event (List.mem_cons_of_mem _ hevent)
  have hevent:=hidle event List.mem_cons_self
  cases event with
  | textDelta text=>
   have hnone:text.toList=[]:=by rw [show text = "" from hevent]; rfl
   rw [uninterrupted,hnone,push_nil hsettled]
   exact hrest
  | nativeTool toolUseId name input=>
   have hname:env.resolve name=none:=hevent
   rw [uninterrupted,toolItems,hname]
   exact hrest
  | _=>exact hrest

variable {late:List RecoveredCursorEvent}

theorem behindTool_shows {events:List RecoveredCursorEvent} (h:behindTool env events=some late) :
  ∃ name inputJson, .tool name inputJson∈itemsOf env events:=by
 induction events with
 | nil=>exact absurd h (by simp [behindTool])
 | cons event events ih=>
  have hrest:behindTool env events=some late →
    ∃ name inputJson, .tool name inputJson∈itemsOf env (event::events):=by
   intro hlate
   obtain ⟨name,inputJson,hmem⟩:=ih hlate
   exact ⟨name,inputJson,by rw [itemsOf_cons]; exact List.mem_append_right _ hmem⟩
  cases event with
  | text text=>exact hrest h
  | toolUse tool=>
   cases hname:env.resolve tool.name with
   | none=>
    rw [behindTool,hname] at h
    exact hrest h
   | some emitName=>
    refine ⟨emitName,env.inputJson emitName (.object tool.input),?_⟩
    rw [itemsOf_cons,recoveredItems,toolItems,hname]
    exact List.mem_append_left _ List.mem_cons_self

theorem endsWithTool_behind {events:List RecoveredCursorEvent}
  (h:endsWithTool env events=true) : ∃ late,behindTool env events=some late:=by
 induction events with
 | nil=>exact absurd h (by simp [endsWithTool])
 | cons event events ih=>
  cases event with
  | text text=>exact ih h
  | toolUse tool=>
   cases hname:env.resolve tool.name with
   | some emitName=>exact ⟨events,by rw [behindTool,hname]; rfl⟩
   | none=>
    cases events with
    | nil=>
     rw [endsWithTool,hname] at h
     exact absurd h (by simp)
    | cons next events=>
     obtain ⟨late,hlate⟩:=ih h
     exact ⟨late,by rw [behindTool,hname]; exact hlate⟩

theorem endsWithTool_cons {event:RecoveredCursorEvent} {events:List RecoveredCursorEvent}
  (h:endsWithTool env events=true) : endsWithTool env (event::events)=true:=by
 cases events with
 | nil=>exact absurd h (by simp [endsWithTool])
 | cons next events=>cases event <;> exact h

theorem endsWithTool_late {events:List RecoveredCursorEvent}
  (h:behindTool env events=some late) (hlate:late=[] ∨ endsWithTool env late=true) :
  endsWithTool env events=true:=by
 induction events with
 | nil=>exact absurd h (by simp [behindTool])
 | cons event events ih=>
  cases event with
  | text text=>exact endsWithTool_cons (ih h)
  | toolUse tool=>
   cases hname:env.resolve tool.name with
   | none=>
    rw [behindTool,hname] at h
    exact endsWithTool_cons (ih h)
   | some emitName=>
    rw [behindTool,hname] at h
    obtain rfl:=Option.some.inj h
    obtain rfl | hends:=hlate
    · rw [endsWithTool,hname]
      rfl
    · exact endsWithTool_cons hends

theorem given_texts {events:List RecoveredCursorEvent} {text:Text} (h:itemsOf env events=text.map .char) :
  behindTool env events=none ∧ endsWithTool env events=false:=by
 have hnone:behindTool env events=none:=by
  cases hlate:behindTool env events with
  | none=>rfl
  | some late=>
   obtain ⟨name,inputJson,hmem⟩:=behindTool_shows hlate
   rw [h] at hmem
   obtain ⟨char,_,hchar⟩:=List.mem_map.mp hmem
   exact absurd hchar Item.noConfusion
 refine ⟨hnone,Bool.eq_false_iff.mpr fun hends=>?_⟩
 obtain ⟨late,hlate⟩:=endsWithTool_behind hends
 exact absurd (hnone.symm.trans hlate) (by simp)

theorem requeued {events:List CursorStreamEvent} (hgiven:∀ text, .text text∈late → GivenBack env parser text)
  (hend:events=[] → endsWithTool env late=true → itemsOf env (parser.flush env.xml).2=[])
  (hkept:Kept env parser events) :
  Kept env parser (late.map (Bridge.queued env)++events) ∧
   uninterrupted env parser (late.map (Bridge.queued env)++events) =
    itemsOf env late++uninterrupted env parser events:=by
 induction late with
 | nil=>exact ⟨hkept,rfl⟩
 | cons event late ih=>
  obtain ⟨hlater,hshows⟩:=ih (fun text htext=>hgiven text (List.mem_cons_of_mem _ htext))
   fun hnone hends=>hend hnone (endsWithTool_cons hends)
  rw [itemsOf_cons,List.map_cons,List.cons_append,List.append_assoc,← hshows]
  cases event with
  | text text=>
   obtain ⟨hsame,hback⟩:=hgiven text List.mem_cons_self
   obtain ⟨hbehind,hends⟩:=given_texts hback
   have htext:(String.ofList text).toList=text:=String.toList_ofList
   simp only [Bridge.queued,Kept,uninterrupted,htext,hsame,hback,hbehind,hends]
   exact ⟨⟨fun _ hlate=>absurd hlate (by simp),fun _ hfalse=>absurd hfalse (by simp),
    hlater⟩,rfl⟩
  | toolUse tool=>
   refine ⟨⟨fun hnone hknown=>?_,hlater⟩,rfl⟩
   obtain ⟨hlate,hnone⟩:=List.append_eq_nil_iff.mp hnone
   obtain rfl:=List.map_eq_nil_iff.mp hlate
   exact hend hnone hknown

/-- A message is finished, or it waits for a tool and what is left shows the rest. -/
inductive Outcome (env:BridgeEnv) (bridge:Bridge) (items goal:List Item) : Prop where
 | ended (hended:Ended bridge (items++goal))
 | paused (parser:CursorToolUseXmlParser) (queue:List CursorStreamEvent)
   (front:List Item) (hwaiting:Waiting bridge parser queue (items++front))
   (hfront:front≠[]) (hgoal:goal=front++uninterrupted env parser queue)
   (hsettled:Settled env.xml parser) (hkept:Kept env parser queue)
   (hnothing:queue=[] → uninterrupted env parser []=[])

theorem Outcome.passed {more goal:List Item} (h:Outcome env bridge (items++more) goal) :
  Outcome env bridge items (more++goal):=by
 cases h with
 | ended hended=>
  rw [List.append_assoc] at hended
  exact .ended hended
 | paused parser queue front hwaiting hfront hgoal hsettled hkept hnothing=>
  rw [List.append_assoc] at hwaiting
  refine .paused parser queue (more++front) hwaiting ?_ ?_ hsettled hkept hnothing
  · exact fun hnil=>hfront (List.append_eq_nil_iff.mp hnil).2
  · rw [hgoal,List.append_assoc]

theorem Ended.finish (env:BridgeEnv) (h:Ended bridge items) : Ended (bridge.finish env) items:=by
 have hsame:bridge.finish env=bridge.endFirst env :=
  if_neg (Bool.eq_false_iff.mp h.paused)
 rw [hsame]
 exact h.flushed.1

theorem run_outcome (hend:Ending env onEnd) (events:List CursorStreamEvent)
  : ∀ {bridge:Bridge} {parser:CursorToolUseXmlParser}
   {items:List Item},Live bridge parser items → Settled env.xml parser →
   Kept env parser events → Outcome env (bridge.run env onEnd events) items (uninterrupted env parser events):=by
 induction events with
 | nil=>
  intro bridge parser items h hsettled _
  have hlive:¬bridge.paused=true:=Bool.eq_false_iff.mp h.paused
  have hsame:bridge.run env onEnd []=bridge.endFirst env:=if_neg hlive
  rw [hsame]
  exact .ended (h.endFirst hsettled)
 | cons event events ih=>
  intro bridge parser items h hsettled hkept
  have hlive:¬bridge.paused=true:=Bool.eq_false_iff.mp h.paused
  have hrun:bridge.run env onEnd (event::events) = (bridge.onEvent env onEnd event).run env onEnd events := rfl
  rw [hrun]
  unfold onEvent
  rw [if_neg hlive]
  cases event with
  | textDelta text=>
   obtain ⟨hgiven,hlast,hrest⟩:=hkept
   have hnext:=settled_push env.xml parser text.toList
   have hrecovered:=(h.withParser (parser.push env.xml text.toList).1).recovered env
    (parser.push env.xml text.toList).2
   dsimp only at hgiven hlast hrest ⊢
   unfold Bridge.push
   rw [h.parser,uninterrupted]
   unfold Recovers at hrecovered
   cases hbehind:behindTool env (parser.push env.xml text.toList).2 with
   | none=>
    rw [hbehind] at hrecovered
    exact (ih hrecovered hnext hrest).passed
   | some late=>
    rw [hbehind] at hrecovered
    obtain ⟨front,hfront,hitems,hwaiting⟩:=hrecovered
    obtain ⟨hqueue,hshows⟩:=requeued (hgiven late hbehind)
     (fun hnone hends=>hlast hnone (endsWithTool_late hbehind (.inr hends))) hrest
    refine .paused _ _ front (hwaiting.events onEnd events).finish hfront ?_ hnext hqueue ?_
    · rw [hshows,hitems,List.append_assoc]
    · intro hnone
      obtain ⟨hlate,hnone⟩:=List.append_eq_nil_iff.mp hnone
      exact hlast hnone (endsWithTool_late hbehind (.inl (List.map_eq_nil_iff.mp hlate)))
  | nativeTool toolUseId name input=>
   obtain ⟨hlast,hrest⟩:=hkept
   rw [uninterrupted]
   cases hname:env.resolve name with
   | none=>exact (ih (h.unknown hname) hsettled hrest).passed
   | some emitName=>
    have hknown:(env.resolve name).isSome:=by rw [hname]; rfl
    obtain ⟨hwaiting,hshows⟩:=h.tool toolUseId input hknown
    exact .paused parser events _ (hwaiting.events onEnd events).finish hshows rfl hsettled
     hrest fun hnone=>hlast hnone hknown
  | «end» =>
   have hended:=((hend.live h hsettled).events hend hkept).finish env
   rw [← uninterrupted_idle hsettled hkept] at hended
   exact .ended hended
  | session=>exact ih h hsettled hkept
  | _=>exact ih (h.silent rfl) hsettled hkept

theorem began_live (parser:CursorToolUseXmlParser) : Live (began parser) parser [] :=
 ⟨rfl,rfl,rfl,rfl⟩

variable {registry:BridgeRegistry} {sessionId:String}

theorem settle_free (h:bridge.paused=false) :
  pendingTool (settle (registry.erase sessionId) sessionId bridge) sessionId=none:=by
 have hsame:settle (registry.erase sessionId) sessionId bridge=registry.erase sessionId :=
  if_neg (Bool.eq_false_iff.mp h)
 unfold pendingTool
 rw [hsame,AList.lookup_erase]
 rfl

theorem settle_waiting (registry:BridgeRegistry) (sessionId:String) (h:Waiting bridge parser queue items) :
  (settle registry sessionId bridge).lookup sessionId=some bridge.state:=by
 have hsame:settle registry sessionId bridge=registry.insert sessionId bridge.state :=
  if_pos h.paused
 rw [hsame,AList.lookup_insert]

theorem messageItems_of {calls:List FramerCall} {finished:Bool}
  (h:shownBy calls=⟨items,finished⟩) : messageItems calls=items :=
 congrArg Shown.items h

/-- Resumed until no tool is pending, the session shows the items. -/
def Continues (env:BridgeEnv) (registry:BridgeRegistry) (sessionId:String) (items:List Item) : Prop :=
 ∃ messages,Resumes env sessionId registry messages ∧ messages.flatMap messageItems=items

section
variable {registry:BridgeRegistry} {sessionId:String} {state:CursorBridgeState}

theorem resume_lookup (hregistry:registry.lookup sessionId=some state) :
  resumeCursorToolBridge env registry sessionId=((resumeBridge env state).calls,
   settle (registry.erase sessionId) sessionId (resumeBridge env state)):=by
 unfold resumeCursorToolBridge
 rw [hregistry]
 rfl

theorem pending_lookup (hregistry:registry.lookup sessionId=some state)
  (hpending:state.pendingTool.isSome) : (pendingTool registry sessionId).isSome:=by
 unfold pendingTool
 rw [hregistry]
 exact hpending

theorem continues_last {finished:Bool} (hregistry:registry.lookup sessionId=some state)
  (hpending:state.pendingTool.isSome) (hpaused:(resumeBridge env state).paused=false)
  (hshown:shownBy (resumeBridge env state).calls=⟨items,finished⟩) : Continues env registry sessionId items:=by
 refine ⟨_,.resume (pending_lookup hregistry hpending) (.done ?_),?_⟩
 · rw [resume_lookup hregistry]
   exact settle_free hpaused
 · rw [resume_lookup hregistry,List.flatMap_cons,List.flatMap_nil,List.append_nil]
   exact messageItems_of hshown

theorem continues_more {rest:List Item} (hregistry:registry.lookup sessionId=some state)
  (hpending:state.pendingTool.isSome) (hwaiting:Waiting (resumeBridge env state) parser queue items)
  (hrest:∀ registry:BridgeRegistry,
   registry.lookup sessionId=some (resumeBridge env state).state → Continues env registry sessionId rest) :
  Continues env registry sessionId (items++rest):=by
 obtain ⟨messages,hmessages,hitems⟩:=hrest (settle (registry.erase sessionId) sessionId (resumeBridge env state))
  (settle_waiting _ _ hwaiting)
 rw [← hitems]
 refine ⟨_::messages,.resume (pending_lookup hregistry hpending) ?_,?_⟩
 · rw [resume_lookup hregistry]
   exact hmessages
 · rw [resume_lookup hregistry,List.flatMap_cons,messageItems_of hwaiting.shown]

end

theorem waiting_continues (size:ℕ) : ∀ {bridge:Bridge}
  {parser:CursorToolUseXmlParser} {queue:List CursorStreamEvent} {items:List Item}
  {registry:BridgeRegistry},(uninterrupted env parser queue).length<size →
   Waiting bridge parser queue items → registry.lookup sessionId=some bridge.state →
   Settled env.xml parser → Kept env parser queue →
   (queue=[] → uninterrupted env parser []=[]) →
    Continues env registry sessionId (uninterrupted env parser queue):=by
 induction size with
 | zero=>exact fun hsize=>absurd hsize (Nat.not_lt_zero _)
 | succ size ih=>
  intro bridge parser queue items registry hsize hwaiting hregistry hsettled hkept hnothing
  by_cases hempty:queue=[]
  · subst hempty
    have hsame:resumeBridge env bridge.state=(began parser).call .finalize:=by
     unfold resumeBridge
     rw [hwaiting.queue,hwaiting.parser]
     rfl
    have hshown:shownBy (resumeBridge env bridge.state).calls=⟨[],true⟩:=by
     rw [hsame]
     rfl
    rw [hnothing rfl]
    refine continues_last hregistry hwaiting.pending ?_ hshown
    rw [hsame]
    rfl
  · have hsame:resumeBridge env bridge.state = (began parser).run env (Bridge.endLater env) queue:=by
     unfold resumeBridge
     rw [hwaiting.queue,hwaiting.parser]
     exact if_neg fun hnil=>hempty (List.isEmpty_iff.mp hnil)
    have houtcome:=run_outcome .later queue (began_live parser) hsettled hkept
    rw [← hsame] at houtcome
    cases houtcome with
    | ended hended=>exact continues_last hregistry hwaiting.pending hended.paused hended.shown
    | paused parser' queue' front hwaiting' hfront hgoal hsettled' hkept' hnothing'=>
     have hsmaller:(uninterrupted env parser' queue').length<size:=by
      have hpositive:=List.length_pos_of_ne_nil hfront
      rw [hgoal,List.length_append] at hsize
      omega
     rw [hgoal]
     exact continues_more hregistry hwaiting.pending hwaiting' fun registry hlater=>
      ih hsmaller hwaiting' hlater hsettled' hkept' hnothing'

theorem resumes_unique {messages others:List (List FramerCall)}
  (h:Resumes env sessionId registry messages) (hothers:Resumes env sessionId registry others) : messages=others:=by
 induction h generalizing others with
 | done hpending=>
  cases hothers with
  | done=>rfl
  | resume hother=>exact absurd hother (Option.not_isSome_iff_eq_none.mpr hpending)
 | resume hpending _ ih=>
  cases hothers with
  | done hother=>exact absurd hpending (Option.not_isSome_iff_eq_none.mpr hother)
  | resume _ hrest=>rw [ih hrest]

theorem emits_unique {events:List CursorStreamEvent} {messages others:List (List FramerCall)}
  (h:Emits env registry sessionId events messages)
  (hothers:Emits env registry sessionId events others) : messages=others:=by
 obtain ⟨later,rfl,hlater⟩:=h
 obtain ⟨later',rfl,hlater'⟩:=hothers
 split_ifs at hlater hlater'
 · rw [resumes_unique hlater hlater']
 · rw [hlater,hlater']

deriving instance DecidableEq for CursorToolUseXmlParser

/-- Every tool is known, and its input is an empty object. -/
def anyToolEnv : BridgeEnv :=
 ⟨emptyObjectEnv,fun name=>name,fun _ input=>input,fun _=>some "\x7b\x7d",fun _=>"id"⟩

def textsOf (events:List RecoveredCursorEvent) : List Text :=
 events.filterMap fun event=>match event with
  | .text text=>some text
  | .toolUse _=>none

def textBehindTool : String := "<tool_use name=\"Read\"></tool_use>hello"

theorem textBehindTool_kept : Kept anyToolEnv .new [.textDelta textBehindTool,.end]:=by
 have hlast:(behindTool anyToolEnv (CursorToolUseXmlParser.new.push anyToolEnv.xml
   textBehindTool.toList).2).map textsOf=some ["hello".toList]:=by
  decide
 refine ⟨fun late hlate text htext=>?_,fun hnone=>absurd hnone (List.cons_ne_nil _ _),
  fun _ hevent=>absurd hevent List.not_mem_nil⟩
 have hmem:text∈textsOf late:=List.mem_filterMap.mpr ⟨_,htext,rfl⟩
 rw [hlate] at hlast
 rw [Option.some.inj hlast] at hmem
 obtain rfl:=List.mem_singleton.mp hmem
 constructor <;> decide

/-- A second tool is cut between two deltas behind the first tool and a text. -/
def tagCutBehindTool : List CursorStreamEvent :=
 [.textDelta "<tool_use name=\"Read\"></tool_use>hello <tool_u",
  .textDelta "se name=\"Read\"></tool_use>",.end]

end CursorProxy.BridgePauses
