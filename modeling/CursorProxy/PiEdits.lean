import CursorProxy.PendingExecs

/-! A `PiEdit` is announced by a field-63 frame and, as a rule, executed by a field-47 one. The
tracker holds the announced edits that still wait for their exec, and the fences against replays. -/
namespace CursorProxy.PiEdits
open XmlElements LiveRunKeys PendingExecs

structure PiEditToolArgs where
 path : Text
 edits : List PiEditReplacement

structure PiEditToolCall where
 args : Option PiEditToolArgs
 hasResult : Bool

structure ToolCall where
 piEditToolCall : Option PiEditToolCall

structure ToolCallStarted where
 callId : Text
 modelCallId : Text
 toolCall : Option ToolCall

inductive PiEditResolution where
 | notPiEdit
 | new
 | alreadyResolved
 | alreadyPromoted
deriving DecidableEq

structure PendingPiEditFallback where
 callId : Text
 modelCallId : Text
 path : Text
 edits : List PiEditReplacement
deriving DecidableEq

structure LogicalToolTracker where
 named : Finset Text
 anonymousByModel : AList fun _ : Text=>ℕ
 oldestSince : Option ℕ
 partialArgs : AList fun _ : Text=>Text
 piEditFallbacks : List PendingPiEditFallback
 resolvedPiEditKeys : Finset Text
 promotedPiEditKeys : Finset Text
 resolvedPiEditIds : Finset Text
 promotedPiEditCounts : AList fun _ : Text=>ℕ
 resolvedPiEditPayloadIds : AList fun _ : Text=>Finset Text

def piEditKey (path:Text) (edits:List PiEditReplacement) : Text :=
 path++edits.flatMap fun edit=>
  '\u001f' :: edit.oldText ++ '\u001e' :: edit.newText

def startedPiEditIdentity (callId:Text) : Option Text :=
 if callId.isEmpty then none else some ("call:".toList++callId)

namespace PendingPiEditFallback

/-- It is set where the fallback is made, from the frame's `call_id`. -/
def identity (fallback:PendingPiEditFallback) : Option Text :=
 startedPiEditIdentity fallback.callId

def key (fallback:PendingPiEditFallback) : Text := piEditKey fallback.path fallback.edits

end PendingPiEditFallback

def execPiEditIdentities (exec:PendingCursorExec) : List Text :=
 ("numeric:".toList++decimal exec.id.toNat) ::
  ((exec.execId.filter fun id=>!id.isEmpty).toList.map fun id=>"exec:".toList++id) ++
  (if exec.toolUseId.isEmpty then [] else ["tool:".toList++exec.toolUseId])

namespace LogicalToolTracker

def default : LogicalToolTracker :=
 { named := ∅,anonymousByModel := ∅,oldestSince := none,partialArgs := ∅
   piEditFallbacks := [],resolvedPiEditKeys := ∅,promotedPiEditKeys := ∅
   resolvedPiEditIds := ∅,promotedPiEditCounts := ∅,resolvedPiEditPayloadIds := ∅ }

def isEmpty (tracker:LogicalToolTracker) : Bool :=
 tracker.named=∅ && tracker.anonymousByModel.entries.isEmpty&&tracker.piEditFallbacks.isEmpty

def settleAge (tracker:LogicalToolTracker) : LogicalToolTracker :=
 { tracker with oldestSince := if tracker.isEmpty then none else tracker.oldestSince }

def rememberPiEditResolution (tracker:LogicalToolTracker) (key:Text) (identities:List Text) : LogicalToolTracker :=
 { tracker with
   resolvedPiEditKeys := insert key tracker.resolvedPiEditKeys
   resolvedPiEditPayloadIds :=
    if identities.isEmpty then tracker.resolvedPiEditPayloadIds
    else tracker.resolvedPiEditPayloadIds.insert key
     ((tracker.resolvedPiEditPayloadIds.lookup key).getD ∅ ∪ identities.toFinset) }

def piEditExactIdentitySeen (tracker:LogicalToolTracker) (identities:List Text) : Bool :=
 identities.any (· ∈ tracker.resolvedPiEditIds)

def rememberPiEditExactIdentities (tracker:LogicalToolTracker) (key:Text) (identities:List Text) : LogicalToolTracker :=
 { tracker with
   resolvedPiEditIds := tracker.resolvedPiEditIds ∪ identities.toFinset }.rememberPiEditResolution key identities

def fallbackMatchesStarted (fallback:PendingPiEditFallback) (started:ToolCallStarted) : Bool :=
 match startedPiEditIdentity started.callId with
 | some identity=>fallback.identity==some identity
 | none=>!started.modelCallId.isEmpty&&fallback.modelCallId==started.modelCallId &&
  fallback.callId.isEmpty

/-- One less is counted; an entry that comes to nothing goes. -/
def decrement (counts:AList fun _ : Text=>ℕ) (key:Text) : AList fun _ : Text=>ℕ :=
 match counts.lookup key with
 | none=>counts
 | some count=>if count-1=0 then counts.erase key else counts.insert key (count-1)

def removeFallbackLogicalMarker (tracker:LogicalToolTracker) (fallback:PendingPiEditFallback) : LogicalToolTracker :=
 let unnamed:=tracker.named.erase fallback.callId
 let unshared:=tracker.partialArgs.erase fallback.callId
 { tracker with
   named := if fallback.modelCallId.isEmpty then unnamed else unnamed.erase fallback.modelCallId
   anonymousByModel := if fallback.callId∈tracker.named then tracker.anonymousByModel
    else decrement tracker.anonymousByModel fallback.modelCallId
   partialArgs := if fallback.modelCallId.isEmpty then unshared
    else unshared.erase fallback.modelCallId }

def removeFallback (tracker:LogicalToolTracker) (index:Option ℕ) : LogicalToolTracker :=
 match index with
 | none=>tracker
 | some index=>
  match tracker.piEditFallbacks[index]? with
  | none=>tracker
  | some fallback=>
   { tracker with piEditFallbacks := tracker.piEditFallbacks.eraseIdx index
     }.removeFallbackLogicalMarker fallback

def soleMatch (fallbacks:List PendingPiEditFallback) (key:Text) : Option ℕ :=
 match fallbacks.findIdxs fun fallback=>fallback.key==key with
 | [index]=>some index
 | _=>none

def rememberCompleted (tracker:LogicalToolTracker) (started:ToolCallStarted)
 (args:PiEditToolArgs) : LogicalToolTracker :=
 let key:=piEditKey args.path args.edits
 let identities:=(startedPiEditIdentity started.callId).toList
 if tracker.piEditExactIdentitySeen identities ||
  (identities.isEmpty&&key∈tracker.resolvedPiEditKeys) then tracker
 else
  let remembered:=tracker.rememberPiEditExactIdentities key identities
  (remembered.removeFallback ((remembered.piEditFallbacks.findIdx? fun fallback=>
   fallbackMatchesStarted fallback started).or (soleMatch remembered.piEditFallbacks key))).settleAge

def rememberPiEditFallback (tracker:LogicalToolTracker) (started:ToolCallStarted) (now:ℕ) :
 LogicalToolTracker×Option Bool :=
 match started.toolCall.bind ToolCall.piEditToolCall with
 | none=>(tracker,none)
 | some edit=>
  if edit.hasResult then
   match edit.args.filter fun args=>!args.path.isEmpty&&!args.edits.isEmpty with
   | some args=>(tracker.rememberCompleted started args,some false)
   | none=>(tracker.settleAge,some false)
  else
   match edit.args.filter fun args=>!args.path.isEmpty&&!args.edits.isEmpty with
   | none=>(tracker,some false)
   | some args=>
    let key:=piEditKey args.path args.edits
    let identities:=(startedPiEditIdentity started.callId).toList
    if tracker.piEditExactIdentitySeen identities ||
     (identities.isEmpty&&key∈tracker.resolvedPiEditKeys) then (tracker,some false)
    else if started.callId.isEmpty&&started.modelCallId.isEmpty then (tracker,none)
    else if tracker.piEditFallbacks.any (fallbackMatchesStarted · started) then
     (tracker,some false)
    else
     ({ tracker with
      oldestSince := if tracker.isEmpty then some now else tracker.oldestSince
      piEditFallbacks := tracker.piEditFallbacks ++
       [⟨started.callId,started.modelCallId,args.path,args.edits⟩] },some true)

/-- The fallback of the exec: by an id, else by the payload. -/
def matchIndex (tracker:LogicalToolTracker) (exec:PendingCursorExec) (path:Text)
 (edits:List PiEditReplacement) : Option ℕ :=
 let execId:=exec.execId.getD []
 (tracker.piEditFallbacks.findIdx? fun fallback=>
  (!execId.isEmpty&&fallback.callId==execId) ||
   (!exec.toolUseId.isEmpty&&fallback.callId==exec.toolUseId)).or
  (tracker.piEditFallbacks.findIdx? fun fallback=>
   fallback.path==path&&fallback.edits==edits)

def wasPromoted (tracker:LogicalToolTracker) (key:Text) : Bool :=
 decide (0<(tracker.promotedPiEditCounts.lookup key).getD 0)

def payloadOnly (tracker:LogicalToolTracker) (key:Text) : Bool :=
 key∈tracker.resolvedPiEditKeys&&(tracker.resolvedPiEditPayloadIds.lookup key).isNone

def payloadOnlyReplay (tracker:LogicalToolTracker) (key:Text) (identities:List Text) : Bool :=
 (identities.isEmpty&&key∈tracker.resolvedPiEditKeys) ||
  (!identities.isEmpty&&tracker.payloadOnly key)

def resolvePiEdit (tracker:LogicalToolTracker) (exec:PendingCursorExec) (path:Text)
 (edits:List PiEditReplacement) : LogicalToolTracker×PiEditResolution :=
 let key:=piEditKey path edits
 let identities:=execPiEditIdentities exec
 if tracker.piEditExactIdentitySeen identities then (tracker,.alreadyResolved)
 else
  let index:=tracker.matchIndex exec path edits
  let claimed:=tracker.removeFallback index
  if index.isNone&&tracker.wasPromoted key then
   ((claimed.rememberPiEditExactIdentities key identities).settleAge,.alreadyPromoted)
  else if index.isNone&&tracker.payloadOnlyReplay key identities then
   (claimed.settleAge,.alreadyResolved)
  else ((claimed.rememberPiEditExactIdentities key identities).settleAge,.new)

def resolvePiEditFallback (tracker:LogicalToolTracker) (exec:PendingCursorExec) : LogicalToolTracker×PiEditResolution :=
 match exec.kind with
 | .piEdit path edits=>tracker.resolvePiEdit exec path edits
 | _=>(tracker,.notPiEdit)

/-- An edit that is represented elsewhere, by its identity if it has one. -/
def recordFallback (tracker:LogicalToolTracker) (fallback:PendingPiEditFallback) : LogicalToolTracker :=
 tracker.rememberPiEditExactIdentities fallback.key fallback.identity.toList

/-- A call id is looked for if there is one, else the model's. -/
def completionIndex (tracker:LogicalToolTracker) (callId modelCallId:Text) : Option ℕ :=
 if callId.isEmpty&&modelCallId.isEmpty then none
 else if !callId.isEmpty then
  tracker.piEditFallbacks.findIdx? fun fallback=>fallback.callId==callId
 else tracker.piEditFallbacks.findIdx? fun fallback=>
  !modelCallId.isEmpty&&fallback.modelCallId==modelCallId

def completing (tracker:LogicalToolTracker) (callId modelCallId:Text) : Option PendingPiEditFallback :=
 (tracker.completionIndex callId modelCallId).bind fun index=>tracker.piEditFallbacks[index]?

def completePiEditFallback (tracker:LogicalToolTracker) (callId modelCallId:Text) : LogicalToolTracker :=
 if callId.isEmpty&&modelCallId.isEmpty then tracker
 else
  match tracker.completing callId modelCallId with
  | some fallback=>((tracker.removeFallback
   (tracker.completionIndex callId modelCallId)).recordFallback fallback).settleAge
  | none=>tracker.settleAge

def takePiEditFallbacks (tracker:LogicalToolTracker) : LogicalToolTracker×List PendingPiEditFallback :=
 ((tracker.piEditFallbacks.foldl removeFallbackLogicalMarker
  { tracker with piEditFallbacks := [] }).settleAge,tracker.piEditFallbacks)

def restorePiEditFallback (tracker:LogicalToolTracker) (fallback:PendingPiEditFallback) (now:ℕ) : LogicalToolTracker :=
 { tracker with
   oldestSince := if tracker.piEditFallbacks.isEmpty then some now else tracker.oldestSince
   piEditFallbacks := tracker.piEditFallbacks++[fallback] }

def markPiEditAuthoritative (tracker:LogicalToolTracker) (fallback:PendingPiEditFallback) : LogicalToolTracker :=
 let recorded:=tracker.recordFallback fallback
 { recorded with
   promotedPiEditKeys := if (recorded.promotedPiEditCounts.lookup fallback.key).getD 0=0
    then recorded.promotedPiEditKeys.erase fallback.key else recorded.promotedPiEditKeys }

def markPiEditPromoted (tracker:LogicalToolTracker) (fallback:PendingPiEditFallback) : LogicalToolTracker :=
 let recorded:=tracker.recordFallback fallback
 { recorded with
   promotedPiEditCounts := recorded.promotedPiEditCounts.insert fallback.key
    ((recorded.promotedPiEditCounts.lookup fallback.key).getD 0+1)
   promotedPiEditKeys := insert fallback.key recorded.promotedPiEditKeys }

def markPiEditAcknowledged (tracker:LogicalToolTracker) (path:Text)
 (edits:List PiEditReplacement) : LogicalToolTracker :=
 let key:=piEditKey path edits
 let counts:=decrement tracker.promotedPiEditCounts key
 { tracker with
   promotedPiEditCounts := counts
   promotedPiEditKeys := if (counts.lookup key).isNone then tracker.promotedPiEditKeys.erase key
    else tracker.promotedPiEditKeys }.rememberPiEditResolution key []

def started (tracker:LogicalToolTracker) (callId modelCallId:Text) (now:ℕ) : LogicalToolTracker :=
 let aged:={ tracker with
  oldestSince := if tracker.isEmpty then some now else tracker.oldestSince }
 if !callId.isEmpty then { aged with named := insert callId aged.named }
 else { aged with
  anonymousByModel := aged.anonymousByModel.insert modelCallId ((aged.anonymousByModel.lookup modelCallId).getD 0+1) }

def completed (tracker:LogicalToolTracker) (callId modelCallId:Text) : LogicalToolTracker :=
 (if !callId.isEmpty then
  { tracker with
    named := tracker.named.erase callId,partialArgs := tracker.partialArgs.erase callId }
 else { tracker with
  anonymousByModel := decrement tracker.anonymousByModel modelCallId }).settleAge

end LogicalToolTracker
end CursorProxy.PiEdits
