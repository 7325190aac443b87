import CursorProxy.LedgerModel
import CursorProxy.LiveRunKeys
import CursorProxy.SandModel
import CursorProxy.TerminalErrors

/-! One slot for each key: a reservation while a run is being opened, the running handle, or a
tombstone. A registry call is one step under the lock. Handles are shared with their drivers and
stand in a table; so do the reservations that requests hold. Instants are in milliseconds, and
the calls on the durable ledger are recorded in order. -/
namespace CursorProxy.LiveRegistry
open XmlElements LiveRunKeys TerminalErrors LedgerModel

/-- The configured lifetime of a terminal error, and the spelling of the drawn ids. -/
structure LiveEnv where
 terminalTtl : ℕ
 uuid : ℕ → String

def liveAmbiguousOpenTtl : ℕ := 90*1000
def liveSucceededReplayTtl : ℕ := 300*1000
def liveReplayMaxEntries : ℕ := 8

structure TerminalOutcome where
 message : Text
 createdAt : ℕ

/-- What the registry reads of a `CursorLiveRunHandle`; `clientOnlyPending` is
`live_pending_must_supersede` of its exposed tools. -/
structure LiveRunHandle where
 runId : String
 requestFingerprint : UInt64
 completed : Bool
 cancelRequested : Bool
 consumerGone : Bool
 commandClosed : Bool
 clientOnlyPending : Bool
 terminalError : Option TerminalOutcome

abbrev Replay := List SandModel.LiveRunEvent

inductive LiveRunEntry where
 | starting (reservationId:ℕ)
 | running (handle:ℕ)
 | ambiguous (until_:ℕ) (fingerprint:UInt64)
 | succeeded (runId:String) (fingerprint:UInt64) (until_:ℕ) (replay:Option Replay)

structure LiveRunMap where
 runs : AList fun _ : Text=>LiveRunEntry
 bySession : AList fun _ : Text=>List Text

namespace LiveRunMap

def new : LiveRunMap := ⟨∅,∅⟩

def get (runs:LiveRunMap) (key:Text) : Option LiveRunEntry := runs.runs.lookup key

def keysFor (runs:LiveRunMap) (sessionId:Text) : List Text :=
 (runs.bySession.lookup sessionId).getD []

def insertKey (runs:LiveRunMap) (key:Text) (entry:LiveRunEntry) : LiveRunMap :=
 let session:=claudeSessionOf key
 let slots:=runs.keysFor session
 { runs := runs.runs.insert key entry
   bySession := runs.bySession.insert session
    (if slots.contains key then slots else slots++[key]) }

def removeKey (runs:LiveRunMap) (key:Text) : LiveRunMap :=
 match runs.get key with
 | none=>runs
 | some _=>
  let session:=claudeSessionOf key
  let slots:=(runs.keysFor session).filter (· ≠ key)
  { runs := runs.runs.erase key
    bySession :=
     if slots.isEmpty then runs.bySession.erase session
     else runs.bySession.insert session slots }

end LiveRunMap

/-- `cancelled` is what the watch channel holds that the slot shares with its reservation;
`committed` is set once the reservation is used up. -/
structure LiveRunReservation where
 key : Text
 durableOwnerToken : String
 committed : Bool
 sealOnDrop : Bool
 cancelled : Bool
 operationFingerprint : UInt64

/-- `published` tells where a handle was put last, until its run is handed to a replacement, is
sealed or has its terminal outcome read; the registry does not look at it. -/
structure LiveState where
 runs : LiveRunMap
 reservations : ℕ → Option LiveRunReservation
 handles : ℕ → LiveRunHandle
 issued : ℕ
 now : ℕ
 ledger : List LedgerOp
 published : ℕ → Option Text

def ambiguousBlocksOperation (stored incoming:UInt64) : Bool :=
 incoming==0||stored==0||stored==incoming

variable (env:LiveEnv)

def terminalOutcomeIsFresh (now:ℕ) (outcome:TerminalOutcome) : Bool :=
 let ttl:=if terminalErrorIsAmbiguousAccept outcome.message
  then max env.terminalTtl liveAmbiguousOpenTtl else env.terminalTtl
 decide (now-outcome.createdAt<ttl)

namespace LiveRunHandle

def freshError (now:ℕ) (handle:LiveRunHandle) : Option Text :=
 (handle.terminalError.filter (terminalOutcomeIsFresh env now)).map TerminalOutcome.message

def hasTerminalError (now:ℕ) (handle:LiveRunHandle) : Bool := (handle.freshError env now).isSome

def retryableTerminalError (now:ℕ) (handle:LiveRunHandle) : Option Text :=
 (handle.freshError env now).filter fun message=>
  liveErrorIsEmptyTurnRetry message&&terminalErrorAllowsFreshRetry message

def hasRetryableTerminalError (now:ℕ) (handle:LiveRunHandle) : Bool :=
 (handle.retryableTerminalError env now).isSome

def isReplaceableForFreshRequest (handle:LiveRunHandle) : Bool :=
 !handle.completed&&(handle.consumerGone||handle.cancelRequested||handle.commandClosed ||
  handle.clientOnlyPending)

end LiveRunHandle

namespace LiveState

def withHandle (state:LiveState) (handle:ℕ) (update:LiveRunHandle → LiveRunHandle) : LiveState :=
 { state with handles := Function.update state.handles handle (update (state.handles handle)) }

def withReservation (state:LiveState) (id:ℕ) (update:LiveRunReservation → LiveRunReservation) : LiveState :=
 { state with
   reservations := Function.update state.reservations id ((state.reservations id).map update) }

def insertKey (state:LiveState) (key:Text) (entry:LiveRunEntry) : LiveState :=
 { state with runs := state.runs.insertKey key entry }

def removeKey (state:LiveState) (key:Text) : LiveState :=
 { state with runs := state.runs.removeKey key }

def unpublish (state:LiveState) (handle:ℕ) : LiveState :=
 { state with published := Function.update state.published handle none }

def record (state:LiveState) (op:LedgerOp) : LiveState :=
 { state with ledger := state.ledger++[op] }

def persistAmbiguousOperation (state:LiveState) (key:Text) (fingerprint:UInt64)
 (owner:String) (message:Text) : LiveState :=
 state.record (.markAmbiguousIfOwner (String.ofList key) fingerprint owner (String.ofList message))

def clearDurableOperation (state:LiveState) (key:Text) (fingerprint:UInt64) (owner:String) : LiveState :=
 state.record (.clearIfOwner (String.ofList key) fingerprint owner)

def markCancelledOperation (state:LiveState) (key:Text) (handle:ℕ) (message:String) : LiveState :=
 let fingerprint:=(state.handles handle).requestFingerprint
 if fingerprint==0 then state
 else state.persistAmbiguousOperation key fingerprint (state.handles handle).runId message.toList

def cancelHandle (state:LiveState) (handle:ℕ) : LiveState :=
 state.withHandle handle fun h=>{ h with cancelRequested := true }

def storeTerminalError (state:LiveState) (handle:ℕ) (message:Text) : LiveState :=
 state.withHandle handle fun h=>
  { h with terminalError := h.terminalError.or (some ⟨message,state.now⟩) }

def finished (state:LiveState) : LiveRunEntry → Bool
 | .starting _=>false
 | .ambiguous until_ _=>!decide (state.now<until_)
 | .succeeded _ _ until_ _=>!decide (state.now<until_)
 | .running handle=>(state.handles handle).completed &&
  !(state.handles handle).hasTerminalError env state.now

def pruneFinished (state:LiveState) : LiveState :=
 let stale:=state.runs.runs.entries.filterMap fun slot=>
  if state.finished env slot.2 then some slot.1 else none
 { state with runs := stale.foldl LiveRunMap.removeKey state.runs }

def keyOccupied (state:LiveState) (key:Text) : Bool :=
 match state.runs.get key with
 | some (.starting _)=>true
 | some (.ambiguous until_ _)=>decide (state.now<until_)
 | some (.succeeded _ _ until_ _)=>decide (state.now<until_)
 | some (.running handle)=>!(state.handles handle).completed
 | none=>false

def reserveKey (state:LiveState) (key:Text) : LiveState×Option ℕ :=
 if (state.runs.get key).isSome then (state,none)
 else
  let reservation : LiveRunReservation :=
   { key := key,durableOwnerToken := env.uuid state.issued,committed := false,
     sealOnDrop := false,cancelled := false,operationFingerprint := 0 }
  ({ state with
   runs := state.runs.insertKey key (.starting state.issued)
   reservations := Function.update state.reservations state.issued (some reservation)
   issued := state.issued+1 },some state.issued)

end LiveState

inductive LiveRunProbe where
 | terminalError (message:Text)
 | occupied
 | free

inductive LiveReply where
 | reserved (id:ℕ) (superseded:Option ℕ)
 | starting
 | ambiguous
 | running
 | conflict
 | completedReplay (replay:Replay)
 | completedNoReplay
 | refused
 | returned (handle:ℕ)
 | done (flag:Bool)
 | probed (probe:LiveRunProbe)
 | terminalError (message:Option Text)

/-- A failed `reserve_key` answers as the call has it. -/
def LiveReply.ofReserve (failed:LiveReply) : Option ℕ → LiveReply
 | none=>failed
 | some id=>.reserved id none

namespace LiveState

def reserveOr (state:LiveState) (key:Text) (failed:LiveReply) : LiveState×LiveReply :=
 let (reserved,id):=state.reserveKey env key
 (reserved,.ofReserve failed id)

def reserveRun (state:LiveState) (key:Text) : LiveState×LiveReply :=
 let state:=state.pruneFinished env
 if state.keyOccupied key then (state,.refused) else state.reserveOr env key .refused

def tryClaimRunForOperation (state:LiveState) (key:Text) (fingerprint:UInt64) : LiveState×LiveReply :=
 let state:=state.pruneFinished env
 match state.runs.get key with
 | some (.starting _)=>(state,.starting)
 | some (.ambiguous until_ stored)=>
  if state.now<until_ then
   if ambiguousBlocksOperation stored fingerprint then (state,.ambiguous)
   else (state.removeKey key).reserveOr env key .running
  else state.reserveOr env key .running
 | some (.succeeded _ stored until_ replay)=>
  if state.now<until_ then
   if fingerprint==0 then (state,.ambiguous)
   else if stored==fingerprint then
    (state,match replay with
     | some replay=>.completedReplay replay
     | none=>.completedNoReplay)
   else (state.removeKey key).reserveOr env key .running
  else state.reserveOr env key .running
 | some (.running handle)=>
  if !(state.handles handle).completed then (state,.running)
  else state.reserveOr env key .running
 | none=>state.reserveOr env key .running

/-- The replacement of a running generation takes over its fingerprint and its ledger owner. -/
def replaceRun (state:LiveState) (key:Text) (handle:ℕ) : LiveState×LiveReply :=
 let h:=state.handles handle
 match (state.removeKey key).reserveKey env key with
 | (reserved,some id)=>
  ((reserved.unpublish handle).withReservation id fun reservation=>
   { reservation with
     operationFingerprint := h.requestFingerprint
     durableOwnerToken := h.runId },.reserved id (some handle))
 | (reserved,none)=>(reserved.insertKey key (.running handle),.conflict)

def claimReplacementForRun (state:LiveState) (key:Text) (expectedRunId:String)
 (requireFreshReplaceable:Bool) : LiveState×LiveReply :=
 let state:=state.pruneFinished env
 match state.runs.get key with
 | some (.running handle)=>
  let h:=state.handles handle
  if h.runId==expectedRunId&&(!requireFreshReplaceable||h.isReplaceableForFreshRequest)
  then state.replaceRun env key handle
  else (state,.conflict)
 | some (.succeeded runId _ _ _)=>
  if runId==expectedRunId then (state.removeKey key).reserveOr env key .conflict
  else (state,.conflict)
 | some (.ambiguous _ _)=>(state,.conflict)
 | some (.starting _)=>(state,.conflict)
 | none=>state.reserveOr env key .conflict

def claimReplacementForOccupiedSlot (state:LiveState) (key:Text) : LiveState×LiveReply :=
 let state:=state.pruneFinished env
 match state.runs.get key with
 | some _=>(state,.conflict)
 | none=>state.reserveOr env key .conflict

def claimSuccessRelease (state:LiveState) (key:Text) (fingerprint:UInt64) : LiveState×LiveReply :=
 let state:=state.pruneFinished env
 match state.runs.get key with
 | some (.succeeded _ stored until_ _)=>
  if decide (state.now<until_)&&stored==fingerprint then (state,.refused)
  else (state.removeKey key).reserveOr env key .refused
 | _=>(state,.refused)

def claimAmbiguousRelease (state:LiveState) (key:Text) (fingerprint:UInt64) : LiveState×LiveReply :=
 let state:=state.pruneFinished env
 match state.runs.get key with
 | some (.ambiguous until_ stored)=>
  if decide (state.now<until_)&&ambiguousBlocksOperation stored fingerprint then
   (state,.refused)
  else (state.removeKey key).reserveOr env key .refused
 | _=>(state,.refused)

def ownsSlot (state:LiveState) (id:ℕ) (key:Text) : Bool :=
 match state.runs.get key with
 | some (.starting reservationId)=>reservationId==id
 | _=>false

def commit (state:LiveState) (id:ℕ) : LiveState :=
 state.withReservation id fun reservation=>{ reservation with committed := true }

def abort (state:LiveState) (id:ℕ) : LiveState :=
 state.withReservation id fun reservation=>{ reservation with cancelled := true }

def release (state:LiveState) (id:ℕ) (reservation:LiveRunReservation) : LiveState :=
 let aborted:=state.abort id
 let released :=
  if aborted.ownsSlot id reservation.key then
   (aborted.removeKey reservation.key).clearDurableOperation reservation.key
    reservation.operationFingerprint reservation.durableOwnerToken
  else aborted
 released.commit id

def sealAmbiguous (state:LiveState) (id:ℕ) (reservation:LiveRunReservation) (until_:ℕ) : LiveState :=
 let sealed :=
  if state.ownsSlot id reservation.key then
   (state.insertKey reservation.key (.ambiguous until_ reservation.operationFingerprint))
    |>.persistAmbiguousOperation reservation.key reservation.operationFingerprint
     reservation.durableOwnerToken "Cursor live open acceptance is ambiguous".toList
  else state
 sealed.commit id

def droppedMessage : String :=
 "Cursor live request owner was dropped after upstream dispatch; completion is ambiguous"

def dropReservation (state:LiveState) (id:ℕ) (reservation:LiveRunReservation) : LiveState :=
 let aborted:=state.abort id
 let dropped :=
  if aborted.ownsSlot id reservation.key&&reservation.sealOnDrop then
   (aborted.insertKey reservation.key (.ambiguous (state.now+liveAmbiguousOpenTtl)
    reservation.operationFingerprint)).persistAmbiguousOperation reservation.key
     reservation.operationFingerprint reservation.durableOwnerToken droppedMessage.toList
  else if aborted.ownsSlot id reservation.key then
   (aborted.removeKey reservation.key).clearDurableOperation reservation.key
    reservation.operationFingerprint reservation.durableOwnerToken
  else aborted
 dropped.commit id

def allowsPublication (state:LiveState) (id:ℕ) (key:Text) : Bool :=
 match state.runs.get key with
 | some (.starting reservationId)=>reservationId==id
 | none=>true
 | some _=>false

def dropReplay (runs:LiveRunMap) (key:Text) : LiveRunMap :=
 match runs.get key with
 | some (.succeeded runId fingerprint until_ _)=>
  { runs with runs := runs.runs.insert key (.succeeded runId fingerprint until_ none) }
 | _=>runs

/-- The entries stand in the order in which the map is walked. -/
def enforceReplayBudget (state:LiveState) : LiveState :=
 let bearing:=state.runs.runs.entries.filterMap fun slot=>match slot.2 with
  | .succeeded _ _ until_ (some _)=>some (slot.1,until_)
  | _=>none
 if bearing.length ≤ liveReplayMaxEntries then state
 else
  let sorted:=bearing.mergeSort fun a b=>decide (a.2 ≤ b.2)
  let oldest:=(sorted.take (bearing.length-liveReplayMaxEntries)).map Prod.fst
  { state with runs := oldest.foldl dropReplay state.runs }

def runningAt (state:LiveState) (runId:String) (key:Text) : Option (Text×ℕ) :=
 match state.runs.get key with
 | some (.running handle)=>
  if (state.handles handle).runId==runId then some (key,handle) else none
 | _=>none

def completionError (completion:Except IoError Bool) : String :=
 match completion with
 | .ok _ => "durable operation owner changed before completion"
 | .error error=>error.message

def completionMessage (completion:Except IoError Bool) : Text :=
 ("Cursor operation completion could not be durably recorded; completion is ambiguous: " ++
  completionError completion).toList

def sealSuccessIf (state:LiveState) (sessionId:Text) (runId:String) (replay:Option Replay)
 (completion:Except IoError Bool) : LiveState :=
 let keys:=state.runs.keysFor (claudeSessionOf sessionId)
 let extra:=if keys.contains sessionId then [] else [sessionId]
 match (keys++extra).findSome? (state.runningAt runId) with
 | none=>state
 | some (key,handle)=>
  let fingerprint:=(state.handles handle).requestFingerprint
  if fingerprint==0 then state
  else
   let marked:=state.record (.markCompletedIfOwner (String.ofList key) fingerprint runId)
   match completion with
   | .ok true=>
    ((marked.insertKey key (.succeeded runId fingerprint (state.now+liveSucceededReplayTtl)
     replay)).unpublish handle).enforceReplayBudget
   | other=>
    (marked.storeTerminalError handle (completionMessage other)).persistAmbiguousOperation key
     fingerprint runId (completionMessage other)

def ownerChangedMessage : String :=
 "Cursor live Run opened after its reservation owner changed; completion is ambiguous"

def transferFailedMessage : String :=
 "Cursor Run opened but durable ownership transfer failed; completion is ambiguous"

def transferError (transferred:Except IoError Bool) : String :=
 match transferred with
 | .ok _ => "durable operation owner changed before Run insertion"
 | .error error=>error.message

def bindFingerprint (state:LiveState) (handle:ℕ) (fingerprint:UInt64) : LiveState :=
 if fingerprint==0 then state
 else state.withHandle handle fun h=>
  { h with requestFingerprint :=
     if h.requestFingerprint==0 then fingerprint else h.requestFingerprint }

/-- Nothing comes between the check of the slot and the publication in one step; the source
checks once more behind the ledger call. -/
def insert (state:LiveState) (id:ℕ) (reservation:LiveRunReservation) (handle:ℕ)
 (transferred completion:Except IoError Bool) : LiveState×LiveReply :=
 let key:=reservation.key
 let fingerprint:=reservation.operationFingerprint
 let owner:=reservation.durableOwnerToken
 let state:=(state.bindFingerprint handle fingerprint).pruneFinished env
 if !state.allowsPublication id key then
  ((state.persistAmbiguousOperation key fingerprint owner ownerChangedMessage.toList).commit id,
   .returned handle)
 else
  let runId:=(state.handles handle).runId
  let asked:=state.record (.transferOwnerIf (String.ofList key) fingerprint owner runId)
  match transferred with
  | .ok true=>
   let published:=(asked.insertKey key (.running handle)).commit id
   let published : LiveState :=
    { published with published := Function.update published.published handle (some key) }
   let h:=published.handles handle
   if h.completed&&!h.hasTerminalError env published.now then
    (published.sealSuccessIf key runId none completion,.done true)
   else (published,.done true)
  | other=>
   let message:=transferFailedMessage ++ ": " ++ transferError other
   (((asked.storeTerminalError handle message.toList).persistAmbiguousOperation key fingerprint
    owner transferFailedMessage.toList).commit id,.returned handle)

def cancelledMessage : String := "Cursor live run cancellation requested; completion is ambiguous"

def staleCancelledMessage : String :=
 "Cursor live run cancellation requested for a stale generation; completion is ambiguous"

def supersededMessage : String := "Cursor live run superseded; completion is ambiguous"

def cancelRunning (state:LiveState) (key:Text) (handle:ℕ) (message:String) : LiveState :=
 ((state.removeKey key).markCancelledOperation key handle message).cancelHandle handle

def cancelRun (state:LiveState) (key:Text) : LiveState×LiveReply :=
 let state:=state.pruneFinished env
 match state.runs.get key with
 | some (.ambiguous _ _)=>(state,.done true)
 | some (.succeeded _ _ _ _)=>(state,.done true)
 | some (.running handle)=>(state.cancelRunning key handle cancelledMessage,.done true)
 | some (.starting id)=>((state.removeKey key).abort id,.done true)
 | none=>(state,.done false)

def cancelRunIfGeneration (state:LiveState) (key:Text) (expectedRunId:String) : LiveState×LiveReply :=
 if expectedRunId.isEmpty then (state,.done false)
 else
  let state:=state.pruneFinished env
  match state.runs.get key with
  | some (.running handle)=>
   let h:=state.handles handle
   if h.runId==expectedRunId&&!h.completed then
    (state.cancelRunning key handle staleCancelledMessage,.done true)
   else (state,.done false)
  | _=>(state,.done false)

def cancelRunningOnly (state:LiveState) (key:Text) : LiveState×LiveReply :=
 let state:=state.pruneFinished env
 match state.runs.get key with
 | some (.running handle)=>
  if !(state.handles handle).completed then
   (state.cancelRunning key handle cancelledMessage,.done true)
  else (state,.done false)
 | _=>(state,.done false)

def supersede (state:LiveState) (key:Text) (handle:ℕ) : LiveState×LiveReply :=
 let h:=state.handles handle
 match (state.removeKey key).reserveKey env key with
 | (reserved,some id)=>
  let kept :=
   if h.requestFingerprint==0 then reserved
   else (reserved.withReservation id fun reservation=>
    { reservation with
      operationFingerprint := h.requestFingerprint
      durableOwnerToken := h.runId
      sealOnDrop := true }).markCancelledOperation key handle supersededMessage
  (kept.cancelHandle handle,.reserved id none)
 | (reserved,none)=>(reserved.cancelHandle handle,.refused)

def supersedeRun (state:LiveState) (key:Text) : LiveState×LiveReply :=
 let state:=state.pruneFinished env
 match state.runs.get key with
 | some (.starting _)=>(state,.refused)
 | some (.ambiguous _ _)=>(state,.refused)
 | some (.succeeded _ _ _ _)=>(state,.refused)
 | some (.running handle)=>
  if !(state.handles handle).completed then state.supersede env key handle
  else state.reserveOr env key .refused
 | none=>state.reserveOr env key .refused

def controlCloseMessage : String :=
 "Cursor live run control channel closed after an unresolved operation; completion is ambiguous"

def takeTerminalError (state:LiveState) (handle:ℕ) : LiveState×Option Text :=
 (state.withHandle handle fun h=>{ h with terminalError := none },
  (state.handles handle).freshError env state.now)

def sealAt (state:LiveState) (key:Text) (fingerprint:UInt64) (owner:String) (message:Text) : LiveState :=
 (state.insertKey key (.ambiguous (state.now+liveAmbiguousOpenTtl) fingerprint))
  |>.persistAmbiguousOperation key fingerprint owner message

def clearAt (state:LiveState) (key:Text) (fingerprint:UInt64) (owner:String) : LiveState :=
 (state.removeKey key).clearDurableOperation key fingerprint owner

def settleProbe (state:LiveState) (key:Text) (handle:ℕ) (error:Text) : LiveState×LiveReply :=
 let h:=state.handles handle
 let state:=state.unpublish handle
 if terminalErrorClearsLiveSlot error then
  (state.clearAt key h.requestFingerprint h.runId,.probed .free)
 else if terminalErrorIsAmbiguousAccept error then
  (state.sealAt key h.requestFingerprint h.runId error,.probed (.terminalError error))
 else (state.clearAt key h.requestFingerprint h.runId,.probed (.terminalError error))

def probeRun (state:LiveState) (key:Text) : LiveState×LiveReply :=
 let state:=state.pruneFinished env
 match state.runs.get key with
 | none=>(state,.probed .free)
 | some (.running handle)=>
  let h:=state.handles handle
  if h.completed||h.commandClosed||h.hasRetryableTerminalError env state.now then
   match h.retryableTerminalError env state.now with
   | some error=>state.settleProbe key handle error
   | none=>
    let (taken,error):=state.takeTerminalError env handle
    match error.or (if h.commandClosed then some controlCloseMessage.toList else none) with
    | some error=>taken.settleProbe key handle error
    | none=>(taken,.probed .occupied)
  else (state,.probed .occupied)
 | some _=>(state,.probed .occupied)

def takeTerminalErrorMatchingRun (state:LiveState) (key:Text) (expectedRunId:Option String) : LiveState×LiveReply :=
 let state:=state.pruneFinished env
 match state.runs.get key with
 | some (.running handle)=>
  let h:=state.handles handle
  if h.completed&&expectedRunId.all (h.runId == ·) then
   let (taken,error):=state.takeTerminalError env handle
   match error with
   | none=>(taken,.terminalError none)
   | some message=>
    let taken:=taken.unpublish handle
    let settled :=
     if terminalErrorIsAmbiguousAccept message then
      taken.sealAt key h.requestFingerprint h.runId message
     else taken.clearAt key h.requestFingerprint h.runId
    (settled,
     .terminalError (if terminalErrorAllowsFreshRetry message then none else some message))
  else (state,.terminalError none)
 | _=>(state,.terminalError none)

end LiveState

inductive DriverEvent where
 | complete
 | requestCancel
 | consumerGone (gone:Bool)
 | closeCommand
 | exposePending (clientOnly:Bool)
 | storeError (message:Text)
 | publishFingerprint (fingerprint:UInt64)

inductive RegistryCall where
 | reserveRun (key:Text)
 | tryClaimRunForOperation (key:Text) (fingerprint:UInt64)
 | claimReplacementForRun (key:Text) (expectedRunId:String) (requireFreshReplaceable:Bool)
 | claimReplacementForOccupiedSlot (key:Text)
 | claimSuccessRelease (key:Text) (fingerprint:UInt64)
 | claimAmbiguousRelease (key:Text) (fingerprint:UInt64)
 | cancelRun (key:Text)
 | cancelRunIfGeneration (key:Text) (expectedRunId:String)
 | cancelRunningOnly (key:Text)
 | supersedeRun (key:Text)
 | sealSuccessIf (sessionId:Text) (runId:String) (replay:Option Replay)
  (completion:Except IoError Bool)
 | probeRun (key:Text)
 | takeTerminalErrorMatchingRun (key:Text) (expectedRunId:Option String)
 | prune

inductive HolderCall where
 | insert (handle:ℕ) (transferred completion:Except IoError Bool)
 | release
 | sealAmbiguous (until_:ℕ)
 | drop
 | setOperationFingerprint (fingerprint:UInt64)
 | setDurableOwnerToken (owner:String)
 | resetDurableOwnerToken
 | protectOnDrop
 | disarmOnDrop

inductive LiveAction where
 | call (call:RegistryCall)
 | holder (id:ℕ) (call:HolderCall)
 | driver (handle:ℕ) (event:DriverEvent)
 | pass (ms:ℕ)

namespace LiveState

def drive (state:LiveState) (handle:ℕ) : DriverEvent → LiveState
 | .complete=>state.withHandle handle fun h=>{ h with completed := true }
 | .requestCancel=>state.cancelHandle handle
 | .consumerGone gone=>state.withHandle handle fun h=>{ h with consumerGone := gone }
 | .closeCommand=>state.withHandle handle fun h=>{ h with commandClosed := true }
 | .exposePending clientOnly=>
  state.withHandle handle fun h=>{ h with clientOnlyPending := clientOnly }
 | .storeError message=>state.storeTerminalError handle message
 | .publishFingerprint fingerprint=>
  state.withHandle handle fun h=>{ h with requestFingerprint := fingerprint }

def call (state:LiveState) : RegistryCall → LiveState×LiveReply
 | .reserveRun key=>state.reserveRun env key
 | .tryClaimRunForOperation key fingerprint=>state.tryClaimRunForOperation env key fingerprint
 | .claimReplacementForRun key expected fresh=>
  state.claimReplacementForRun env key expected fresh
 | .claimReplacementForOccupiedSlot key=>state.claimReplacementForOccupiedSlot env key
 | .claimSuccessRelease key fingerprint=>state.claimSuccessRelease env key fingerprint
 | .claimAmbiguousRelease key fingerprint=>state.claimAmbiguousRelease env key fingerprint
 | .cancelRun key=>state.cancelRun env key
 | .cancelRunIfGeneration key expected=>state.cancelRunIfGeneration env key expected
 | .cancelRunningOnly key=>state.cancelRunningOnly env key
 | .supersedeRun key=>state.supersedeRun env key
 | .sealSuccessIf sessionId runId replay completion=>
  (state.sealSuccessIf sessionId runId replay completion,.done true)
 | .probeRun key=>state.probeRun env key
 | .takeTerminalErrorMatchingRun key expected=>
  state.takeTerminalErrorMatchingRun env key expected
 | .prune=>(state.pruneFinished env,.done true)

/-- A reservation that is committed is used up. -/
def hold (state:LiveState) (id:ℕ) (reservation:LiveRunReservation) : HolderCall → LiveState×LiveReply
 | .insert handle transferred completion=>
  state.insert env id reservation handle transferred completion
 | .release=>(state.release id reservation,.done true)
 | .sealAmbiguous until_=>(state.sealAmbiguous id reservation until_,.done true)
 | .drop=>(state.dropReservation id reservation,.done true)
 | .setOperationFingerprint fingerprint=>
  (state.withReservation id fun r=>{ r with operationFingerprint := fingerprint },.done true)
 | .setDurableOwnerToken owner=>
  (state.withReservation id fun r=>{ r with durableOwnerToken := owner },.done true)
 | .resetDurableOwnerToken=>
  (state.withReservation id fun r=>{ r with durableOwnerToken := env.uuid id },.done true)
 | .protectOnDrop=>(state.withReservation id fun r=>{ r with sealOnDrop := true },.done true)
 | .disarmOnDrop=>(state.withReservation id fun r=>{ r with sealOnDrop := false },.done true)

def step (state:LiveState) : LiveAction → Option (LiveState×LiveReply)
 | .call call=>some (state.call env call)
 | .holder id call=>
  ((state.reservations id).filter fun reservation=>!reservation.committed).map
   fun reservation=>state.hold env id reservation call
 | .driver handle event=>some (state.drive handle event,.done true)
 | .pass ms=>some ({ state with now := state.now+ms },.done true)

end LiveState
end CursorProxy.LiveRegistry
