import CursorProxy.JsonValues

/-! An operation has one owner, which opens the upstream, and any number of duplicate requests,
which subscribe to the owner's event stream. A publication appends to the bounded replay and
snapshots the subscribers in one critical section, sends without the lock and drops the failed
subscribers in another. The state keeps the channels as they are seen from both ends and, beyond
the code, the list of all events published so far. -/
namespace CursorProxy.SandModel
open JsonValues

def usizeMax : ℕ := 2 ^ 64-1
def saturatingAdd (a b:ℕ) : ℕ := min (a+b) usizeMax
def clamp (x low high:ℕ) : ℕ := max low (min x high)

def defaultEventReplayCapacity : ℕ := 16384
def defaultTerminalReplayTtlSecs : ℕ := 30
def subscriberChannelCapacity : ℕ := 512
def maxSubscriberReplayQueue : ℕ := 16384
def defaultSubscriberLimit : ℕ := 512
def maxSubscriberLimit : ℕ := 1024
def defaultReplayByteCapacity : ℕ := 16*1024*1024
def maxReplayByteCapacity : ℕ := 128*1024*1024
def defaultOperationEntryLimit : ℕ := 2048
def maxOperationEntryLimit : ℕ := 65536

/-- The parsed environment variables and the length of a serialized value
(`none` where serialization fails). -/
structure SandEnv where
 replayEvents : Option ℕ
 replayBytes : Option ℕ
 subscribers : Option ℕ
 entries : Option ℕ
 replayTtlSecs : Option ℕ
 jsonLength : JsonValue → Option ℕ

def envPositive (raw:Option ℕ) (default:ℕ) : ℕ := (raw.filter (0 < ·)).getD default

namespace SandEnv

def replayCapacity (env:SandEnv) : ℕ :=
 clamp (envPositive env.replayEvents defaultEventReplayCapacity) 128 65536

def replayByteCapacity (env:SandEnv) : ℕ :=
 clamp (envPositive env.replayBytes defaultReplayByteCapacity) (64*1024) maxReplayByteCapacity

def subscriberLimit (env:SandEnv) : ℕ :=
 clamp (envPositive env.subscribers defaultSubscriberLimit) 1 maxSubscriberLimit

def operationEntryLimit (env:SandEnv) : ℕ :=
 clamp (envPositive env.entries defaultOperationEntryLimit) 128 maxOperationEntryLimit

def terminalReplayTtl (env:SandEnv) : ℕ :=
 clamp (env.replayTtlSecs.getD defaultTerminalReplayTtlSecs) 1 300*1000000000

end SandEnv

inductive CursorStreamEvent where
 | session (sessionId:String)
 | thinkingDelta (text:String)
 | thinkingSignature (signature:String)
 | thinkingCompleted
 | textDelta (text:String)
 | nativeTool (toolUseId name:String) (input:JsonValue)
 | usage (inputTokens outputTokens cacheReadTokens cacheWriteTokens:UInt64)
 | outputTokenDelta (tokens:UInt64)
 | end

structure LiveNativeTool where
 toolUseId : String
 name : String
 input : JsonValue

inductive LiveRunEvent where
 | cursor (event:CursorStreamEvent)
 | nativeToolBatch (tools:List LiveNativeTool)

abbrev LiveEventResult := Except String LiveRunEvent

def eventOverhead : ℕ := 64

def nativeToolBytes (env:SandEnv) (toolUseId name:String) (input:JsonValue) : ℕ :=
 saturatingAdd (saturatingAdd (saturatingAdd eventOverhead toolUseId.utf8ByteSize)
  name.utf8ByteSize) ((env.jsonLength input).getD 256)

def replayEventBytes (env:SandEnv) : LiveEventResult → ℕ
 | .error message=>saturatingAdd eventOverhead message.utf8ByteSize
 | .ok (.cursor (.session sessionId))=>saturatingAdd eventOverhead sessionId.utf8ByteSize
 | .ok (.cursor (.thinkingDelta text)) | .ok (.cursor (.textDelta text))=>
  saturatingAdd eventOverhead text.utf8ByteSize
 | .ok (.cursor (.thinkingSignature signature))=>
  saturatingAdd eventOverhead signature.utf8ByteSize
 | .ok (.cursor (.nativeTool toolUseId name input))=>nativeToolBytes env toolUseId name input
 | .ok (.cursor (.usage ..)) | .ok (.cursor (.outputTokenDelta _))
 | .ok (.cursor .thinkingCompleted) | .ok (.cursor .end)=>eventOverhead
 | .ok (.nativeToolBatch tools)=>
  max (tools.map fun tool=>nativeToolBytes env tool.toolUseId tool.name tool.input).sum
   eventOverhead

/-- A bounded channel: what was put into it so far, how much of that was taken
out, and whether the receiver is still there. -/
structure Channel where
 owner : Bool
 capacity : ℕ
 sent : List LiveEventResult
 received : ℕ
 receiverOpen : Bool

namespace Channel

def unused : Channel := ⟨false,0,[],0,false⟩

def hasRoom (channel:Channel) : Bool :=
 channel.receiverOpen&&channel.sent.length-channel.received<channel.capacity

def trySend (channel:Channel) (event:LiveEventResult) : Channel :=
 if channel.hasRoom then { channel with sent := channel.sent++[event] } else channel

end Channel

structure SandOperationSubscriber where
 id : ℕ
 owner : Bool
 deriving DecidableEq

structure SandOperationEntry where
 replay : List LiveEventResult
 replayCapacity : ℕ
 replayBytes : ℕ
 replayByteCapacity : ℕ
 replayTruncated : Bool
 subscribers : List SandOperationSubscriber
 finishedAt : Option ℕ

def SandOperationEntry.new (env:SandEnv) : SandOperationEntry :=
 ⟨[],env.replayCapacity,0,env.replayByteCapacity,false,[],none⟩

inductive SubscribeError where
 | replayUnavailable
 | subscriberLimit
 deriving DecidableEq

/-- A publication between its two critical sections: the senders of the snapshot
not yet served and what failed so far. -/
structure Publication where
 event : LiveEventResult
 ownerSenders : List ℕ
 retrySenders : List ℕ
 failedIds : List ℕ
 ownerClosed : Bool

/-- Where the owner stands: still opening the upstream, in or after `fail`, with
its forwarder running or ended, or dropped without either. -/
inductive OwnerPhase where
 | opening
 | failing
 | failed
 | forwarding
 | ended
 | dropped
 deriving DecidableEq

/-- The publish lock is held exactly while there is a `publication`. A channel
carries the id of its subscriber; one that is never attached takes an id too. -/
structure SandState where
 entry : SandOperationEntry
 channels : ℕ → Channel
 nextSubscriberId : ℕ
 publication : Option Publication
 phase : OwnerPhase
 published : List LiveEventResult

def SandState.new (env:SandEnv) : SandState :=
 ⟨.new env,fun _=>.unused,1,none,.opening,[]⟩

def replayChannel (owner:Bool) (replay:List LiveEventResult) : Channel :=
 let capacity:=min (max subscriberChannelCapacity (replay.length+1)) maxSubscriberReplayQueue
 replay.foldl Channel.trySend ⟨owner,capacity,[],0,true⟩

namespace SandState

def senderOpen (state:SandState) (id:ℕ) : Bool := (state.channels id).receiverOpen

def subscribe (env:SandEnv) (state:SandState) (owner:Bool) : SandState×Except SubscribeError ℕ :=
 let entry:=state.entry
 if entry.replayTruncated then (state,.error .replayUnavailable)
 else
  let attached:=entry.subscribers.filter fun subscriber=>state.senderOpen subscriber.id
  let swept:={ state with entry := { entry with subscribers := attached } }
  if entry.finishedAt.isNone ∧ env.subscriberLimit ≤ attached.length then
   (swept,.error .subscriberLimit)
  else if maxSubscriberReplayQueue ≤ entry.replay.length then (swept,.error .replayUnavailable)
  else
   let id:=state.nextSubscriberId
   let attached:=if entry.finishedAt.isNone then attached++[⟨id,owner⟩] else attached
   ({ state with
    entry := { entry with subscribers := attached }
    channels := Function.update state.channels id (replayChannel owner entry.replay)
    nextSubscriberId := id+1 },.ok id)

end SandState

/-- Drop the oldest events until one more event fits. -/
def makeRoom (env:SandEnv) (capacity byteCapacity eventBytes:ℕ) :
 List LiveEventResult → ℕ → Bool → List LiveEventResult×ℕ×Bool
 | [],bytes,truncated=>([],bytes,truncated)
 | oldest::replay,bytes,truncated=>
  if capacity ≤ (oldest::replay).length ∨ byteCapacity<saturatingAdd bytes eventBytes then
   makeRoom env capacity byteCapacity eventBytes replay (bytes-replayEventBytes env oldest) true
  else (oldest::replay,bytes,truncated)

def appendReplay (env:SandEnv) (entry:SandOperationEntry) (event:LiveEventResult) : SandOperationEntry :=
 let eventBytes:=replayEventBytes env event
 if entry.replayByteCapacity<eventBytes then
  { entry with replay := [],replayBytes := 0,replayTruncated := true }
 else
  let room:=makeRoom env entry.replayCapacity entry.replayByteCapacity eventBytes entry.replay
   entry.replayBytes entry.replayTruncated
  { entry with
    replay := room.1++[event]
    replayBytes := saturatingAdd room.2.1 eventBytes
    replayTruncated := room.2.2 }

namespace SandState

def beginPublish (env:SandEnv) (state:SandState) (event:LiveEventResult) : SandState :=
 let subscribers:=state.entry.subscribers
 { state with
   entry := appendReplay env state.entry event
   published := state.published++[event]
   publication := some {
    event
    ownerSenders := (subscribers.filter fun subscriber=>subscriber.owner).map (·.id)
    retrySenders := (subscribers.filter fun subscriber=>!subscriber.owner).map (·.id)
    failedIds := []
    ownerClosed := false } }

def withChannel (state:SandState) (id:ℕ) (channel:Channel) : SandState :=
 { state with channels := Function.update state.channels id channel }

def put (state:SandState) (id:ℕ) (event:LiveEventResult) : SandState :=
 state.withChannel id ((state.channels id).trySend event)

/-- The second critical section of `publish`. -/
def settle (state:SandState) (publication:Publication) : SandState :=
 let retained:=state.entry.subscribers.filter fun subscriber=>
  !(publication.failedIds.contains subscriber.id||!state.senderOpen subscriber.id ||
   (subscriber.owner&&publication.ownerClosed))
 { state with entry := { state.entry with subscribers := retained },publication := none }

def finish (state:SandState) (now:ℕ) (phase:OwnerPhase) : SandState :=
 { state with
   entry := { state.entry with finishedAt := some now,subscribers := [] }
   phase }

/-- `Drop` of the owner. A running `fail` is cancelled with it. -/
def dropOwner (state:SandState) (now:ℕ) : SandState :=
 match state.phase with
 | .forwarding | .ended | .dropped=>state
 | .opening | .failing | .failed=>
  let cancelled:={ state with publication := none,phase := .dropped }
  if state.entry.finishedAt.isNone then
   { cancelled with entry := { state.entry with
      finishedAt := some now
      replayTruncated := true
      subscribers := [] } }
  else cancelled

end SandState

inductive SandAction where
 /-- A duplicate request is admitted. -/
 | subscribe
 /-- The forwarder starts. -/
 | forwardFrom
 /-- The owner fails and begins to publish the error. -/
 | fail (message:String)
 /-- The forwarder got an event from the driver and begins to publish it. -/
 | publish (event:LiveEventResult)
 /-- The awaited send to an owner ends, in time or not. -/
 | sendOwner (delivered:Bool)
 | sendRetry
 | settle
 /-- The forwarder's source is at its end, or `fail` has published. -/
 | finish (now:ℕ)
 | dropOwner (now:ℕ)
 /-- A response body takes an event, or goes away. -/
 | receive (id:ℕ)
 | closeReceiver (id:ℕ)

namespace SandState

def step (env:SandEnv) (state:SandState) : SandAction → Option SandState
 | .subscribe=>some (state.subscribe env false).1
 | .forwardFrom=>
  if state.phase=.opening then some { state with phase := .forwarding } else none
 | .fail message=>
  if state.phase=.opening ∧ state.publication.isNone then
   some { state.beginPublish env (.error message) with phase := .failing }
  else none
 | .publish event=>
  if state.phase=.forwarding ∧ state.publication.isNone then
   some (state.beginPublish env event)
  else none
 | .sendOwner delivered=>
  match state.publication with
  | some publication=>
   match publication.ownerSenders with
   | []=>none
   | id::ownerSenders=>
    if delivered then
     if (state.channels id).hasRoom then
      some { state.put id publication.event with
       publication := some { publication with ownerSenders } }
     else none
    else some { state with publication := some { publication with
     ownerSenders
     failedIds := id::publication.failedIds
     ownerClosed := true } }
  | none=>none
 | .sendRetry=>
  match state.publication with
  | some publication=>
   match publication.ownerSenders,publication.retrySenders with
   | [],id::retrySenders=>
    if (state.channels id).hasRoom then
     some { state.put id publication.event with
      publication := some { publication with retrySenders } }
    else some { state with publication := some { publication with
     retrySenders
     failedIds := id::publication.failedIds } }
   | _,_=>none
  | none=>none
 | .settle=>
  match state.publication with
  | some publication=>
   if publication.ownerSenders.isEmpty ∧ publication.retrySenders.isEmpty then
    some (state.settle publication)
   else none
  | none=>none
 | .finish now=>
  if state.publication.isNone then
   match state.phase with
   | .forwarding=>some (state.finish now .ended)
   | .failing=>some (state.finish now .failed)
   | _=>none
  else none
 | .dropOwner now=>some (state.dropOwner now)
 | .receive id=>
  if (state.channels id).received<(state.channels id).sent.length then
   some (state.withChannel id { state.channels id with received := (state.channels id).received+1 })
  else none
 | .closeReceiver id=>
  some (state.withChannel id { state.channels id with receiverOpen := false })

def admitted (env:SandEnv) : SandState := ((SandState.new env).subscribe env true).1

end SandState

end CursorProxy.SandModel
