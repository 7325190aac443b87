import CursorProxy.AtomicSections
import CursorProxy.CodexRequests

/-! The registry keeps, for a session, the turn that was started last and what that turn was
recorded with. A turn takes its id first and enters the registry under the lock afterwards, so
that the turns of a session may enter in another order than they took their ids. -/
namespace CursorProxy.ContinuationModel
open JsonValues AtomicSections CodexReducer CodexRequests StableJson

def ttlMs : ℕ := 30*60*1000
def maxStates : ℕ := 10000
def maxSessionTranscriptBytes : ℕ := 2000000
def maxTotalTranscriptBytes : ℕ := 20000000

structure ContinuationState where
 responseId : String
 promptSignature : Text
 transcript : List ResponsesInputItem
 transcriptBytes : ℕ
 updatedAt : ℕ

structure SessionState where
 currentTurn : ℕ
 continuation : Option ContinuationState
 updatedAt : ℕ

abbrev Sessions := AList fun _ : String=>SessionState

structure ContinuationRegistry where
 sessions : Sessions
 totalTranscriptBytes : ℕ

structure ContinuationCandidate where
 turnId : Option ℕ
 previousResponseId : Option String
 inputDelta : Option (List ResponsesInputItem)
 inputDeltaCount : ℕ
 disabledReason : Option String

/-- What a section takes from outside: the time, and the order in which the hash map holds
its sessions. -/
structure Outside where
 now : ℕ
 order : List (Sigma fun _:String=>SessionState) → List (Sigma fun _:String=>SessionState)
 perm : ∀ sessions,(order sessions).Perm sessions

namespace ContinuationRegistry

/-- A session goes, and the bytes of its transcript with it. -/
def remove (registry:ContinuationRegistry) (sessionId:String) : ContinuationRegistry :=
 let state:=(registry.sessions.lookup sessionId).bind SessionState.continuation
 { sessions := registry.sessions.erase sessionId
   totalTranscriptBytes :=
    registry.totalTranscriptBytes-(state.map ContinuationState.transcriptBytes).getD 0 }

def oldest (outside:Outside) (registry:ContinuationRegistry) : Option String :=
 ((outside.order registry.sessions.entries).argmin fun entry=>entry.2.updatedAt).map Sigma.fst

def evictLoop (outside:Outside) : ℕ → ContinuationRegistry → ContinuationRegistry
 | 0,registry=>registry
 | remaining+1,registry=>
  if maxStates<registry.sessions.keys.length ∨
   maxTotalTranscriptBytes<registry.totalTranscriptBytes then
   match registry.oldest outside with
   | none=>registry
   | some sessionId=>evictLoop outside remaining (registry.remove sessionId)
  else registry

def evictOldest (outside:Outside) (registry:ContinuationRegistry) : ContinuationRegistry :=
 registry.evictLoop outside registry.sessions.keys.length

end ContinuationRegistry

def inputSuffixAfterPrefix : List ResponsesInputItem → List ResponsesInputItem → Option (List ResponsesInputItem)
 | input,[]=>some input
 | [],_::_=>none
 | item::input,expected::rest=>
  if same (itemValue item) (itemValue expected) then inputSuffixAfterPrefix input rest else none

def withoutResponse (turnId:Option ℕ) (count:ℕ) (reason:String) : ContinuationCandidate where
 turnId := turnId
 previousResponseId := none
 inputDelta := none
 inputDeltaCount := count
 disabledReason := some reason

/-- A state that is older than `TTL_MS` counts as none. -/
def continuationCandidateFromState (turnId:ℕ) (body:ResponsesRequest)
 (state:Option ContinuationState) (supersededTurn:Bool) (now:ℕ) : ContinuationCandidate :=
 match state.filter fun state=>now-state.updatedAt ≤ ttlMs with
 | none=>
  withoutResponse (some turnId) body.input.length (if supersededTurn then "superseded_turn" else "missing_state")
 | some state=>
  if promptSignature body≠state.promptSignature then
   withoutResponse (some turnId) body.input.length "prompt_changed"
  else
   match inputSuffixAfterPrefix body.input state.transcript with
   | none=>withoutResponse (some turnId) body.input.length "not_append_only"
   | some []=>withoutResponse (some turnId) 0 "empty_delta"
   | some suffix=>
    { turnId := some turnId
      previousResponseId := some state.responseId
      inputDelta := some suffix
      inputDeltaCount := suffix.length
      disabledReason := none }

structure Recorded where
 request : ResponsesRequest
 responseId : String
 outputItems : List ResponsesInputItem
 updatedAt : ℕ

def transcript (request:ResponsesRequest) (outputItems:List ResponsesInputItem) :
 List ResponsesInputItem := request.input++outputItems

/-- The order of the members does not change how long the text is. -/
def transcriptBytes (items:List ResponsesInputItem) : ℕ :=
 ((stableJson (.array (items.map itemValue))).map Char.utf8Size).sum

def Recorded.state (recorded:Recorded) : ContinuationState where
 responseId := recorded.responseId
 promptSignature := promptSignature recorded.request
 transcript := transcript recorded.request recorded.outputItems
 transcriptBytes := transcriptBytes (transcript recorded.request recorded.outputItems)
 updatedAt := recorded.updatedAt

/-- What has happened to the turns, the last first. A turn is started when it enters the
registry. -/
inductive Past where
 | started (sessionId:String) (turnId:ℕ)
 | recorded (sessionId:String) (turnId:ℕ) (recorded:Recorded)

/-- A candidate that was returned, for which request, and what had happened before its turn
entered the registry. -/
structure Returned where
 sessionId : Option String
 body : ResponsesRequest
 now : ℕ
 before : List Past
 candidate : ContinuationCandidate

/-- The statics of the module. What has happened, and the candidates that were returned, are
kept for the statements. -/
structure World where
 registry : Option ContinuationRegistry
 nextTurnId : ℕ
 past : List Past
 returned : List Returned

/-- The turn of a session that was started last, and what it was recorded with last. -/
def latest (sessionId:String) : List Past → Option (ℕ×Option Recorded)
 | []=>none
 | .started other turnId::past=>
  if other=sessionId then some (turnId,none) else latest sessionId past
 | .recorded other turnId recorded::past=>
  if other=sessionId then
   (latest sessionId past).map fun (current,last)=>
    (current,if current=turnId then some recorded else last)
  else latest sessionId past

/-- Another turn of the session was started last. -/
def Superseded (past:List Past) (sessionId:String) (turnId:ℕ) : Prop :=
 ∃ current recorded,latest sessionId past=some (current,recorded) ∧ current≠turnId

inductive Call where
 | candidate (sessionId:Option String) (body:ResponsesRequest) (enabled:Bool)
 | record (sessionId:Option String) (turnId:Option ℕ) (requestBody:ResponsesRequest)
  (responseId:Option String) (outputItems:List ResponsesInputItem)
 | abort (sessionId:Option String) (turnId:Option ℕ)
 | clear (sessionId:Option String)

inductive Section where
 | refuse (sessionId:Option String) (body:ResponsesRequest) (reason:String)
 | takeTurn (sessionId:String) (body:ResponsesRequest)
 | enter (sessionId:String) (body:ResponsesRequest) (turnId now:ℕ)
 | stamp (sessionId:String) (turnId:ℕ) (requestBody:ResponsesRequest) (responseId:String)
  (outputItems:List ResponsesInputItem)
 | publish (sessionId:String) (turnId:ℕ) (recorded:Recorded)
 | abort (sessionId:String) (turnId:ℕ)
 | clear (sessionId:String)

/-- A transcript that is too large, or has no response, aborts its turn. -/
def sections : Call → List Section
 | .candidate sessionId body false=>[.refuse sessionId body "disabled"]
 | .candidate none body true=>[.refuse none body "missing_session"]
 | .candidate (some sessionId) body true=>[.takeTurn sessionId body]
 | .record (some sessionId) (some turnId) _ none _=>[.abort sessionId turnId]
 | .record (some sessionId) (some turnId) requestBody (some responseId) outputItems=>
  if maxSessionTranscriptBytes<transcriptBytes (transcript requestBody outputItems) then
   [.abort sessionId turnId]
  else [.stamp sessionId turnId requestBody responseId outputItems]
 | .abort (some sessionId) (some turnId)=>[.abort sessionId turnId]
 | .clear (some sessionId)=>[.clear sessionId]
 | .record _ _ _ _ _ | .abort _ _ | .clear none=>[]

namespace World

def reply (world:World) (returned:Returned) : World :=
 { world with returned := returned::world.returned }

/-- The state of the session is taken out, and its turn is current. -/
def enter (outside:Outside) (world:World) (sessionId:String) (body:ResponsesRequest) (turnId now:ℕ) : World :=
 let registry:=world.registry.getD ⟨∅,0⟩
 let existing:=registry.sessions.lookup sessionId
 let removed:=registry.remove sessionId
 let entered : ContinuationRegistry :=
  { removed with sessions := removed.sessions.insert sessionId ⟨turnId,none,now⟩ }
 let candidate:=continuationCandidateFromState turnId body
  (existing.bind SessionState.continuation) existing.isSome now
 ({ world with
  registry := some (entered.evictOldest outside)
  past := .started sessionId turnId::world.past }).reply ⟨some sessionId,body,now,world.past,candidate⟩

def recordTurn (outside:Outside) (registry:ContinuationRegistry) (sessionId:String)
 (turnId:ℕ) (state:ContinuationState) : ContinuationRegistry :=
 match registry.sessions.lookup sessionId with
 | none=>registry
 | some session=>
  if session.currentTurn≠turnId then registry
  else
   let existing:=(session.continuation.map ContinuationState.transcriptBytes).getD 0
   ContinuationRegistry.evictOldest outside
    { sessions :=
       registry.sessions.insert sessionId { session with continuation := some state }
      totalTranscriptBytes :=
       registry.totalTranscriptBytes-existing+state.transcriptBytes }

def publish (outside:Outside) (world:World) (sessionId:String) (turnId:ℕ) (recorded:Recorded) : World :=
 { world with
   registry := world.registry.map fun registry=>
    recordTurn outside registry sessionId turnId recorded.state
   past := .recorded sessionId turnId recorded::world.past }

def abortTurn (registry:ContinuationRegistry) (sessionId:String) (turnId:ℕ) : ContinuationRegistry :=
 if (registry.sessions.lookup sessionId).any fun session=>session.currentTurn==turnId then
  registry.remove sessionId
 else registry

def abort (world:World) (sessionId:String) (turnId:ℕ) : World :=
 { world with registry := world.registry.map fun registry=>abortTurn registry sessionId turnId }

def clear (world:World) (sessionId:String) : World :=
 { world with registry := world.registry.map (·.remove sessionId) }

end World

def runSection (outside:Outside) : Section → World → World×List Section
 | .refuse sessionId body reason,world=>
  (world.reply ⟨sessionId,body,outside.now,world.past,withoutResponse none body.input.length reason⟩,[])
 | .takeTurn sessionId body,world=>
  ({ world with nextTurnId := (world.nextTurnId+1) % 2 ^ 64 },
   [.enter sessionId body world.nextTurnId outside.now])
 | .enter sessionId body turnId now,world=>
  (world.enter outside sessionId body turnId now,[])
 | .stamp sessionId turnId requestBody responseId outputItems,world=>
  (world,[.publish sessionId turnId ⟨requestBody,responseId,outputItems,outside.now⟩])
 | .publish sessionId turnId recorded,world=>
  (world.publish outside sessionId turnId recorded,[])
 | .abort sessionId turnId,world=>(world.abort sessionId turnId,[])
 | .clear sessionId,world=>(world.clear sessionId,[])

def continuations : System World Section Outside Call where
 sections := sections
 run := fun outside act world=>some (runSection outside act world)

def start : Config World Section := ⟨⟨none,1,[],[]⟩,∅⟩

end CursorProxy.ContinuationModel
