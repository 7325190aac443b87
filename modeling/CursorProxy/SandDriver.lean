import CursorProxy.RunInference
import CursorProxy.SandModel

/-! The driver opens one attempt after the other until one of them has shown something or nothing
more may be tried. What the rest of the program answers in one turn of its loop is an `Attempt`:
the clock, the open, the stream, the accounts, the downstream channel. -/
namespace CursorProxy.SandDriver
open JsonValues RunInference
open SandModel (CursorStreamEvent)

inductive SandStreamEventAction where
 | buffer
 | commit
 | complete
 | hollowEnd
 deriving DecidableEq

def classifySandStreamEvent (event:CursorStreamEvent)
 (committed compactionMode compactionThinking:Bool) : SandStreamEventAction :=
 match event with
 | .end=>
  if committed||compactionMode&&compactionThinking then .complete else .hollowEnd
 | .textDelta text=>if text.isEmpty then .buffer else .commit
 | .nativeTool _ _ _=>.commit
 | _=>.buffer

/-- The turn, the names and inputs that the client knows, and what the texts of errors say. -/
structure SandEnv where
 compactionMode : Bool
 resolveAdvertisedName : String → Option String
 adaptToolInputForClient : String → JsonValue → JsonValue
 maxRetries : ℕ
 idleSecs : ℕ
 /-- No snapshot of the saved accounts has a higher `account_failover_swap_limit`. -/
 swapLimit : ℕ
 /-- The model is bound to one account. -/
 modelBound : Bool
 clientMessage : CursorError → String
 isSandToolCapabilityError : CursorError → Bool
 sandAttemptBudgetExhausted : CursorError → Bool
 isSandAccountFailoverError : CursorError → Bool
 isAccountFailoverOpenError : CursorError → Bool
 cursorErrorIsAccountFailoverPolicy : CursorError → Bool
 isSandAdmissionCapacityError : CursorError → Bool
 streamErrorIsRetryable : CursorError → Bool
 /-- The message tells of a stream that ended without useful progress. -/
 endedWithoutProgress : CursorError → Bool
 sandToolCapabilityClientError : CursorError → CursorError

/-- A tool that the client does not know is dropped. -/
def normalizeSandStreamEvent (env:SandEnv) : CursorStreamEvent → Option CursorStreamEvent
 | .nativeTool toolUseId name input=>
  (env.resolveAdvertisedName name).map fun name=>
   .nativeTool toolUseId name (env.adaptToolInputForClient name input)
 | event=>some event

inductive Next where
 | event (event:CursorStreamEvent)
 | error (error:CursorError)
 | ended
 | idle (exhausted:Bool)
 /-- The downstream receiver is gone. -/
 | closed

/-- One wait for the stream; `accepted` events of a flush reach the receiver before it goes. -/
structure Poll where
 expired : Bool
 next : Next
 accepted : Option ℕ

structure Attempt where
 closed : Bool
 expired : Bool
 closedOpening : Bool
 opened : Option CursorError
 polls : List Poll
 replaySafe : Bool
 closedHollow : Bool
 hollowReplacement : Bool
 closedFailover : Bool
 replacement : Bool
 closedWaiting : Bool
 capacityReleased : Bool
 /-- The deadline is further away than the delay. -/
 delayFits : Bool
 closedSleeping : Bool
 accepted : Option ℕ

inductive SandOpenAttemptKind where
 | transport
 | accountFailover
 | toolFallback
 deriving DecidableEq

inductive Delivery where
 | event (event:CursorStreamEvent)
 | error (message:String)

/-- `opens` and `current`, the stream that was opened last, are only looked at in statements. -/
structure Driver where
 hasStream : Bool
 retries : ℕ
 buffered : List CursorStreamEvent
 committed : Bool
 fallbackRequest : Bool
 nextOpenKind : SandOpenAttemptKind
 hollowAccountFailoverAttempted : Bool
 /-- The account swaps of the logical turn. -/
 swaps : ℕ
 delivered : List Delivery
 opens : ℕ
 current : List Poll

/-- The initial stream is open, and nothing was delivered. -/
def Driver.start (fallbackRequest:Bool) (swaps:ℕ) : Driver where
 hasStream := true
 retries := 0
 buffered := []
 committed := false
 fallbackRequest := fallbackRequest
 nextOpenKind := .transport
 hollowAccountFailoverAttempted := false
 swaps := swaps
 delivered := []
 opens := 0
 current := []

inductive Status where
 /-- The loop goes on. -/
 | again
 /-- The stream has more to come. -/
 | waiting
 | closed
 | returned
 deriving DecidableEq

namespace Driver

/-- What the receiver takes of the buffer, and whether it is still there. -/
def sendSandBufferedEvents (s:Driver) (accepted:Option ℕ) : Driver×Bool :=
 match accepted with
 | some count=>
  if count<s.buffered.length then
   ({ s with
    delivered := s.delivered++(s.buffered.take count).map .event
    buffered := [] },false)
  else ({ s with delivered := s.delivered++s.buffered.map .event,buffered := [] },true)
 | none=>({ s with delivered := s.delivered++s.buffered.map .event,buffered := [] },true)

def sendSandBufferedError (env:SandEnv) (s:Driver) (accepted:Option ℕ) (error:CursorError) : Driver×Status :=
 let taken:=s.buffered.length
 match s.sendSandBufferedEvents accepted with
 | (s,false)=>(s,.closed)
 | (s,true)=>
  if accepted=some taken then (s,.closed)
  else ({ s with delivered := s.delivered++[.error (env.clientMessage error)] },.returned)

def discardSandReplayBuffer (s:Driver) : Driver := { s with buffered := [] }

def discardUnlessCommitted (s:Driver) : Driver :=
 if s.committed then s else s.discardSandReplayBuffer

def deadlineError : CursorError :=
 ⟨504,"Sand logical retry deadline exhausted before useful progress",none⟩

def withoutProgress : CursorError := ⟨502,"Sand stream ended without useful progress",none⟩

def withoutTerminal : CursorError := ⟨502,"Sand stream ended without a terminal event",none⟩

def idleError (env:SandEnv) : CursorError :=
 ⟨504,"Sand stream idle timeout after " ++ toString env.idleSecs ++ "s with no useful progress",none⟩

inductive Read where
 | waiting
 | closed
 | returned
 | failed (error:CursorError)

def noteThinking (env:SandEnv) (compactionThinking:Bool) : CursorStreamEvent → Bool
 | .thinkingDelta text=>compactionThinking||env.compactionMode&&!text.isEmpty
 | _=>compactionThinking

def readStream (env:SandEnv) : Driver → Bool → List Poll → Driver×Read
 | s,_,[]=>(s,.waiting)
 | s,compactionThinking,poll::polls=>
  if !s.committed&&poll.expired then (s,.failed deadlineError)
  else match poll.next with
   | .closed=>(s,.closed)
   | .event event=>match normalizeSandStreamEvent env event with
    | none=>readStream env s compactionThinking polls
    | some event=>
     let compactionThinking:=noteThinking env compactionThinking event
     let kept:={ s with buffered := s.buffered++[event] }
     match classifySandStreamEvent event s.committed env.compactionMode compactionThinking with
     | .buffer=>readStream env kept compactionThinking polls
     | .commit=>
      match ({ kept with committed := true }).sendSandBufferedEvents poll.accepted with
      | (s,true)=>readStream env s compactionThinking polls
      | (s,false)=>(s,.closed)
     | .complete=>match kept.sendSandBufferedEvents poll.accepted with
      | (s,true)=>(s,.returned)
      | (s,false)=>(s,.closed)
     | .hollowEnd=>(s,.failed withoutProgress)
   | .error error=>(s,.failed error)
   | .ended=>(s,.failed (if s.committed then withoutTerminal else withoutProgress))
   | .idle exhausted=>
    (s,.failed (if !s.committed&&exhausted then deadlineError else idleError env))

def fallBack (s:Driver) : Driver :=
 { s.discardSandReplayBuffer with fallbackRequest := false,retries := 0 }

def swapAccount (s:Driver) : Driver :=
 { s.discardSandReplayBuffer with
   nextOpenKind := .accountFailover,retries := 0,swaps := s.swaps+1 }

/-- The pool has an account that was not tried, and another swap is allowed. -/
def replaces (env:SandEnv) (s:Driver) (found:Bool) : Bool :=
 decide (s.swaps<env.swapLimit)&&found

def openFailed (env:SandEnv) (s:Driver) (attempt:Attempt) (error:CursorError) : Driver×Status :=
 if env.sandAttemptBudgetExhausted error then
  s.discardSandReplayBuffer.sendSandBufferedError env attempt.accepted error
 else if !s.committed&&env.isSandToolCapabilityError error then
  if s.fallbackRequest then ({ s.fallBack with nextOpenKind := .toolFallback },.again)
  else s.discardSandReplayBuffer.sendSandBufferedError env attempt.accepted (env.sandToolCapabilityClientError error)
 else if !s.committed&&!env.sandAttemptBudgetExhausted error &&
  env.isSandAccountFailoverError error then
  if attempt.closedFailover then (s,.closed)
  else if s.replaces env attempt.replacement then (s.swapAccount,.again)
  else s.discardSandReplayBuffer.sendSandBufferedError env attempt.accepted error
 else if !s.committed&&decide (s.retries<env.maxRetries) &&
  !env.isSandAccountFailoverError error&&env.streamErrorIsRetryable error then
  if !attempt.delayFits then
   s.discardSandReplayBuffer.sendSandBufferedError env attempt.accepted error
  else if attempt.closedSleeping then (s.discardSandReplayBuffer,.closed)
  else ({ s.discardSandReplayBuffer with retries := s.retries+1 },.again)
 else s.discardUnlessCommitted.sendSandBufferedError env attempt.accepted error

def streamFailedLater (env:SandEnv) (s:Driver) (attempt:Attempt) (error:CursorError) : Driver×Status :=
 if env.sandAttemptBudgetExhausted error then
  s.discardSandReplayBuffer.sendSandBufferedError env attempt.accepted error
 else if (!s.committed&&env.isSandToolCapabilityError error)&&attempt.replaySafe then
  if s.fallbackRequest then (s.fallBack,.again)
  else s.discardSandReplayBuffer.sendSandBufferedError env attempt.accepted (env.sandToolCapabilityClientError error)
 else if !s.committed&&attempt.replaySafe&&!env.sandAttemptBudgetExhausted error &&
  (env.isAccountFailoverOpenError error||env.cursorErrorIsAccountFailoverPolicy error ||
   env.isSandAccountFailoverError error) then
  if attempt.closedFailover then (s,.closed)
  else if s.replaces env attempt.replacement then (s.swapAccount,.again)
  else if env.isSandAdmissionCapacityError error&&attempt.closedWaiting then (s,.closed)
  -- The buffer is not discarded here.
  else if env.isSandAdmissionCapacityError error&&attempt.capacityReleased then
   ({ s with nextOpenKind := .transport },.again)
  else s.discardSandReplayBuffer.sendSandBufferedError env attempt.accepted error
 else if !s.committed&&attempt.replaySafe&&decide (s.retries<env.maxRetries) &&
  !env.isSandAccountFailoverError error&&env.streamErrorIsRetryable error then
  if !attempt.delayFits then
   s.discardSandReplayBuffer.sendSandBufferedError env attempt.accepted error
  else if attempt.closedSleeping then (s.discardSandReplayBuffer,.closed)
  else ({ s.discardSandReplayBuffer with
   retries := s.retries+1,nextOpenKind := .transport },.again)
 else s.discardUnlessCommitted.sendSandBufferedError env attempt.accepted error

def streamFailed (env:SandEnv) (s:Driver) (attempt:Attempt) (error:CursorError) : Driver×Status :=
 if !s.committed&&attempt.replaySafe&&env.endedWithoutProgress error&&s.fallbackRequest then
  (s.fallBack,.again)
 else if !s.committed&&attempt.replaySafe&&!s.hollowAccountFailoverAttempted &&
  !env.modelBound&&env.endedWithoutProgress error &&
  !env.sandAttemptBudgetExhausted error then
  let s:={ s with hollowAccountFailoverAttempted := true }
  if attempt.closedHollow then (s,.closed)
  else if s.replaces env attempt.hollowReplacement then (s.swapAccount,.again)
  else s.streamFailedLater env attempt error
 else s.streamFailedLater env attempt error

def openStream (s:Driver) (attempt:Attempt) : Driver :=
 { s with hasStream := false,opens := s.opens+1,current := attempt.polls }

def drain (env:SandEnv) (s:Driver) (attempt:Attempt) : Driver×Status :=
 match readStream env (s.openStream attempt) false attempt.polls with
 | (s,.waiting)=>(s,.waiting)
 | (s,.closed)=>(s,.closed)
 | (s,.returned)=>(s,.returned)
 | (s,.failed error)=>s.streamFailed env attempt error

def iterate (env:SandEnv) (s:Driver) (attempt:Attempt) : Driver×Status :=
 if attempt.closed then (s,.closed)
 else if s.hasStream then s.drain env attempt
 else if attempt.expired then
  s.discardSandReplayBuffer.sendSandBufferedError env attempt.accepted deadlineError
 else if attempt.closedOpening then (s,.closed)
 else match attempt.opened with
  | none=>({ s with nextOpenKind := .transport }).drain env attempt
  | some error=>s.openFailed env attempt error

def driveSandStreamWithRetries (env:SandEnv) : Driver → List Attempt → Driver×Status
 | s,[]=>(s,.again)
 | s,attempt::attempts=>match s.iterate env attempt with
  | (s,.again)=>driveSandStreamWithRetries env s attempts
  | (s,status)=>(s,status)

end Driver
end CursorProxy.SandDriver
