import Mathlib

/-! One record a key: the owner of the active sampling stage and the replay history of completed
stages. Records live in a directory, one file a key, under the digest of the key.

SHA-256 is a parameter. JSON enters through its size in bytes and through the digest of a
payload; a stored record reads back as it was written. -/
namespace CursorProxy.LedgerModel

def u64Max : ℕ := 2 ^ 64-1
def saturatingAdd (a b:ℕ) : ℕ := min (a+b) u64Max
def saturatingMul (a b:ℕ) : ℕ := min (a*b) u64Max
def clamp (x low high:ℕ) : ℕ := max low (min x high)

def recordVersion : ℕ := 1
def maxRecordBytes : ℕ := 64*1024
def maxKeyBytes : ℕ := 4*1024
def maxOwnerBytes : ℕ := 512
def maxMessageBytes : ℕ := 4*1024
def defaultMaxRecords : ℕ := 10000
def defaultMaxCompletedPerKey : ℕ := 256
def defaultCompletedRetentionSecs : ℕ := 7*24*60*60
def minUnresolvedRetentionSecs : ℕ := 24*60*60
def maxRetentionSecs : ℕ := 30*24*60*60
def staleTempAgeMs : ℕ := 60*60*1000
def maxRecentTempFiles : ℕ := 64

inductive OperationAdmission where
 | allowed
 | duplicateCompleted
 | ambiguous (message:String)
 | unavailable (message:String)
 deriving DecidableEq

inductive ActiveState where
 | prepared
 | dispatched
 | ambiguous
 deriving DecidableEq

structure ActiveOperation where
 fingerprint : UInt64
 ownerToken : String
 processInstanceId : String
 state : ActiveState
 message : Option String
 recordedAtMs : ℕ
 expiresAtMs : ℕ
 deriving DecidableEq

structure CompletedOperation where
 fingerprint : UInt64
 completedAtMs : ℕ
 deriving DecidableEq

structure RecordPayload where
 operationKey : String
 active : Option ActiveOperation
 completed : List CompletedOperation
 updatedAtMs : ℕ
 deriving DecidableEq

structure StoredRecord where
 version : ℕ
 payload : RecordPayload
 checksum : String
 deriving DecidableEq

inductive IoErrorKind where
 | invalidInput
 | invalidData
 | other
 deriving DecidableEq

structure IoError where
 kind : IoErrorKind
 message : String
 deriving DecidableEq

abbrev Digest := Vector UInt8 32

/-- The parsed environment variables, the outcome of `storage_dir`
(`false` when the ledger is not enabled) and SHA-256 of keys and payloads. -/
structure LedgerEnv where
 maxFiles : Option ℕ
 completedPerKey : Option ℕ
 unresolvedSecs : Option ℕ
 completedRetentionSecs : Option ℕ
 storageDir : Except IoError Bool
 keyDigest : String → Digest
 payloadDigest : RecordPayload → Digest

def envPositive (raw:Option ℕ) (default:ℕ) : ℕ :=
 (raw.filter (0 < ·)).getD default

namespace LedgerEnv

def ledgerMaxRecords (env:LedgerEnv) : ℕ := envPositive env.maxFiles defaultMaxRecords

def maxCompletedPerKey (env:LedgerEnv) : ℕ :=
 min (envPositive env.completedPerKey defaultMaxCompletedPerKey) 4096

def unresolvedRetentionMs (env:LedgerEnv) : ℕ :=
 saturatingMul (clamp (envPositive env.unresolvedSecs minUnresolvedRetentionSecs)
  minUnresolvedRetentionSecs maxRetentionSecs) 1000

def completedRetentionMs (env:LedgerEnv) : ℕ :=
 max (saturatingMul (clamp (envPositive env.completedRetentionSecs defaultCompletedRetentionSecs)
  minUnresolvedRetentionSecs maxRetentionSecs) 1000) env.unresolvedRetentionMs

end LedgerEnv

inductive WriteStep where
 | createTemp
 | tempPermissions
 | writeAll
 | syncFile
 | rename
 | recordPermissions
 | syncDirectory
 deriving DecidableEq

/-- The rename is the commit point: a later failure leaves the new record. -/
def WriteStep.committed : WriteStep → Bool
 | .recordPermissions | .syncDirectory=>true
 | _=>false

inductive RemoveStep where
 | removeFile
 | syncDirectory
 deriving DecidableEq

/-- Which file-system step of a call fails, and how. -/
structure IoFaults where
 write : Option (WriteStep×IoError)
 remove : Option (RemoveStep×IoError)

def IoFaults.none : IoFaults := ⟨Option.none,Option.none⟩

/-- What a call reads from its surroundings: the process it runs in, the clock
on entry, the later clock reading of the rollback stamp and of the capacity
sweep, and the file-system failures. -/
structure CallContext where
 processInstanceId : String
 nowMs : ℕ
 laterMs : ℕ
 faults : IoFaults
 now_le_later : nowMs ≤ laterMs
 later_le_max : laterMs ≤ u64Max

def hexByte (byte:UInt8) : List Char :=
 [Nat.digitChar (byte.toNat / 16),Nat.digitChar (byte.toNat % 16)]

def hex (digest:Digest) : String := String.ofList (digest.toList.flatMap hexByte)

def recordPath (env:LedgerEnv) (operationKey:String) : String :=
 hex (env.keyDigest operationKey) ++ ".json"

def checksum (env:LedgerEnv) (payload:RecordPayload) : String :=
 hex (env.payloadDigest payload)

/-- What one byte of a string takes in JSON: quotes, backslashes and the named
control characters are escaped with one sign, the others by number. -/
def jsonByteBytes (byte:UInt8) : ℕ :=
 let code:=byte.toNat
 if code=34 ∨ code=92 ∨ code=8 ∨ code=9 ∨ code=10 ∨ code=12 ∨ code=13 then 2
 else if code<32 then 6
 else 1

def jsonStringBytes (s:String) : ℕ := 2+(s.toByteArray.data.toList.map jsonByteBytes).sum

def jsonNumberBytes (n:ℕ) : ℕ := (Nat.toDigits 10 n).length

def jsonOptionBytes {α:Type*} (bytes:α → ℕ) : Option α → ℕ
 | none=>4
 | some value=>bytes value

/-- An object or an array: two brackets, the items and the commas between. -/
def jsonListBytes (items:List ℕ) : ℕ := 2+items.sum+(items.length-1)

def jsonFieldBytes (name:String) (value:ℕ) : ℕ := name.utf8ByteSize+3+value

def ActiveState.name : ActiveState → String
 | .prepared => "prepared"
 | .dispatched => "dispatched"
 | .ambiguous => "ambiguous"

def activeBytes (active:ActiveOperation) : ℕ :=
 jsonListBytes [jsonFieldBytes "fingerprint" (jsonNumberBytes active.fingerprint.toNat),
  jsonFieldBytes "owner_token" (jsonStringBytes active.ownerToken),
  jsonFieldBytes "process_instance_id" (jsonStringBytes active.processInstanceId),
  jsonFieldBytes "state" (jsonStringBytes active.state.name),
  jsonFieldBytes "message" (jsonOptionBytes jsonStringBytes active.message),
  jsonFieldBytes "recorded_at_ms" (jsonNumberBytes active.recordedAtMs),
  jsonFieldBytes "expires_at_ms" (jsonNumberBytes active.expiresAtMs)]

def completedBytes (entry:CompletedOperation) : ℕ :=
 jsonListBytes [jsonFieldBytes "fingerprint" (jsonNumberBytes entry.fingerprint.toNat),
  jsonFieldBytes "completed_at_ms" (jsonNumberBytes entry.completedAtMs)]

def payloadBytes (payload:RecordPayload) : ℕ :=
 jsonListBytes [jsonFieldBytes "operation_key" (jsonStringBytes payload.operationKey),
  jsonFieldBytes "active" (jsonOptionBytes activeBytes payload.active),
  jsonFieldBytes "completed" (jsonListBytes (payload.completed.map completedBytes)),
  jsonFieldBytes "updated_at_ms" (jsonNumberBytes payload.updatedAtMs)]

def storedBytes (stored:StoredRecord) : ℕ :=
 jsonListBytes [jsonFieldBytes "version" (jsonNumberBytes stored.version),
  jsonFieldBytes "payload" (payloadBytes stored.payload),jsonFieldBytes "checksum" (jsonStringBytes stored.checksum)]

/-- The operations directory: the `.json` records by path, and the modification
times of the `.tmp` files where they can be read. -/
structure LedgerDir where
 records : AList (fun _:String=>StoredRecord)
 temps : List (Option ℕ)

def LedgerDir.empty : LedgerDir := ⟨∅,[]⟩

def validateIdentity (operationKey:String) (ownerToken:Option String) : Except IoError Unit :=
 if operationKey.isEmpty ∨ maxKeyBytes<operationKey.utf8ByteSize then
  .error ⟨.invalidInput,"Cursor operation key is empty or exceeds its safety limit"⟩
 else if ownerToken.any fun owner=>owner.isEmpty ∨ maxOwnerBytes<owner.utf8ByteSize then
  .error ⟨.invalidInput,"Cursor operation owner is empty or exceeds its safety limit"⟩
 else .ok ()

def recordTooLarge : IoError :=
 ⟨.invalidData,"Cursor operation ledger record exceeds its safety limit"⟩

def readRecord (env:LedgerEnv) (dir:LedgerDir) (path operationKey:String) : Except IoError (Option RecordPayload) :=
 match dir.records.lookup path with
 | none=>.ok none
 | some stored=>
  if maxRecordBytes<storedBytes stored then .error recordTooLarge
  else if stored.version≠recordVersion then
   .error ⟨.invalidData,"Cursor operation ledger schema version is unsupported"⟩
  else if stored.payload.operationKey≠operationKey then
   .error ⟨.invalidData,"Cursor operation ledger key mismatch"⟩
  else if checksum env stored.payload≠stored.checksum then
   .error ⟨.invalidData,"Cursor operation ledger checksum mismatch"⟩
  else .ok (some stored.payload)

def readRecordByPath (env:LedgerEnv) (stored:StoredRecord) : Except IoError RecordPayload :=
 if maxRecordBytes<storedBytes stored then .error recordTooLarge
 else if stored.version≠recordVersion ∨ checksum env stored.payload≠stored.checksum then
  .error ⟨.invalidData,"Cursor operation ledger record is corrupt"⟩
 else .ok stored.payload

def removeRecord (dir:LedgerDir) (path:String) (faults:IoFaults) : LedgerDir×Except IoError Unit :=
 if path ∉ dir.records then (dir,.ok ())
 else match faults.remove with
  | some (.removeFile,error)=>(dir,.error error)
  | some (.syncDirectory,error)=>({ dir with records := dir.records.erase path },.error error)
  | none=>({ dir with records := dir.records.erase path },.ok ())

def emptyRecord (operationKey:String) (nowMs:ℕ) : RecordPayload :=
 ⟨operationKey,none,[],nowMs⟩

/-- Nothing is worth keeping: such a record is removed instead of written. -/
def RecordPayload.vacant (payload:RecordPayload) : Bool :=
 payload.active.isNone&&payload.completed.isEmpty

/-- Keep the oldest entry of every fingerprint; `seen` holds those passed. -/
def dedupFingerprints (seen:List UInt64) : List CompletedOperation → List CompletedOperation
 | []=>[]
 | entry::entries=>
  if entry.fingerprint∈seen then dedupFingerprints seen entries
  else entry::dedupFingerprints (entry.fingerprint::seen) entries

def drainExcess (limit:ℕ) (entries:List CompletedOperation) : List CompletedOperation :=
 entries.drop (entries.length-limit)

def addCompleted (env:LedgerEnv) (completed:List CompletedOperation) (fingerprint:UInt64)
 (completedAtMs:ℕ) : List CompletedOperation :=
 let kept:=completed.filter fun entry=>entry.fingerprint≠fingerprint
 let entry : CompletedOperation:={ fingerprint,completedAtMs }
 let sorted:=(kept++[entry]).insertionSort fun a b=>a.completedAtMs ≤ b.completedAtMs
 drainExcess env.maxCompletedPerKey sorted

/-- The history part of `normalize`. -/
def retainCompleted (env:LedgerEnv) (nowMs:ℕ) (completed:List CompletedOperation) : List CompletedOperation :=
 let oldest:=nowMs-env.completedRetentionMs
 drainExcess env.maxCompletedPerKey (dedupFingerprints [] (completed.filter fun entry=>oldest ≤ entry.completedAtMs))

/-- The active part of `normalize`: a prepared stage of a dead process and an
expired stage are given up. -/
def retainActive (processInstanceId:String) (nowMs:ℕ) : Option ActiveOperation → Option ActiveOperation
 | none=>none
 | some active=>
  if active.state=.prepared ∧ active.processInstanceId≠processInstanceId then none
  else if active.expiresAtMs ≤ nowMs then none
  else some active

def normalize (env:LedgerEnv) (processInstanceId:String) (nowMs:ℕ) (payload:RecordPayload) : RecordPayload×Bool :=
 let after:={ payload with
  active := retainActive processInstanceId nowMs payload.active
  completed := retainCompleted env nowMs payload.completed }
 if after≠payload then ({ after with updatedAtMs := nowMs },true) else (payload,false)

def activeMessage (active:ActiveOperation) : String :=
 active.message.getD <| match active.state with
  | .prepared => "Cursor operation is owned by another active request before dispatch"
  | .dispatched => "Cursor operation was dispatched and has no durable terminal outcome"
  | .ambiguous => "Cursor operation completion is ambiguous"

def isCompleted (payload:RecordPayload) (fingerprint:UInt64) : Bool :=
 payload.completed.any fun entry=>entry.fingerprint=fingerprint

def classify (payload:RecordPayload) (fingerprint:UInt64) : OperationAdmission :=
 if isCompleted payload fingerprint then .duplicateCompleted
 else match payload.active with
  | some active=>.ambiguous (activeMessage active)
  | none=>.allowed

def takeBytes : ℕ → List Char → List Char
 | _,[]=>[]
 | budget,c::cs=>if c.utf8Size ≤ budget then c::takeBytes (budget-c.utf8Size) cs else []

def truncateMessage (message:String) : String :=
 if message.utf8ByteSize ≤ maxMessageBytes then message
 else String.ofList (takeBytes maxMessageBytes message.toList) ++ "…"

def sealRecord (env:LedgerEnv) (payload:RecordPayload) : StoredRecord :=
 ⟨recordVersion,payload,checksum env payload⟩

def isStaleTemp (nowMs:ℕ) : Option ℕ → Bool
 | some modifiedMs=>modifiedMs ≤ nowMs&&staleTempAgeMs ≤ nowMs-modifiedMs
 | none=>false

def cleanupOrphanTemps (dir:LedgerDir) (nowMs:ℕ) : LedgerDir×Except IoError Unit :=
 let recent:=dir.temps.filter fun temp=>!isStaleTemp nowMs temp
 ({ dir with temps := recent },
  if maxRecentTempFiles<recent.length then
   .error ⟨.other,"Cursor operation ledger has too many recent temporary files"⟩
  else .ok ())

/-- The sweep of `ensure_capacity`: remove the records that normalize to
nothing, stopping at the first one that cannot be read. -/
def reclaim (env:LedgerEnv) (ctx:CallContext) : List String → LedgerDir → LedgerDir×Except IoError Unit
 | [],dir=>(dir,.ok ())
 | path::paths,dir=>
  match dir.records.lookup path with
  | none=>reclaim env ctx paths dir
  | some stored=>
   match readRecordByPath env stored with
   | .error error=>(dir,.error error)
   | .ok payload=>
    if (normalize env ctx.processInstanceId ctx.laterMs payload).1.vacant then
     reclaim env ctx paths { dir with records := dir.records.erase path }
    else reclaim env ctx paths dir

def ensureCapacity (env:LedgerEnv) (ctx:CallContext) (dir:LedgerDir) (target:String) : LedgerDir×Except IoError Unit :=
 if target∈dir.records then (dir,.ok ())
 else match cleanupOrphanTemps dir ctx.laterMs with
  | (dir,.error error)=>(dir,.error error)
  | (dir,.ok ())=>
   if dir.records.keys.length<env.ledgerMaxRecords then (dir,.ok ())
   else match reclaim env ctx dir.records.keys dir with
    | (dir,.error error)=>(dir,.error error)
    | (dir,.ok ())=>
     if env.ledgerMaxRecords ≤ dir.records.keys.length then
      (dir,.error ⟨.other,"Cursor operation ledger reached its bounded replay-retention capacity"⟩)
     else (dir,.ok ())

def publishRecord (env:LedgerEnv) (ctx:CallContext) (dir:LedgerDir)
 (payload:RecordPayload) : LedgerDir×Except IoError Unit :=
 let written:={ dir with
  records := dir.records.insert (recordPath env payload.operationKey) (sealRecord env payload) }
 match ctx.faults.write with
 | none=>(written,.ok ())
 | some (step,error)=>(if step.committed then written else dir,.error error)

def writeRecord (env:LedgerEnv) (ctx:CallContext) (dir:LedgerDir)
 (payload:RecordPayload) : LedgerDir×Except IoError Unit :=
 match ensureCapacity env ctx dir (recordPath env payload.operationKey) with
 | (dir,.error error)=>(dir,.error error)
 | (dir,.ok ())=>
  if maxRecordBytes<storedBytes (sealRecord env payload) then (dir,.error recordTooLarge)
  else publishRecord env ctx dir payload

def persistOrRemove (env:LedgerEnv) (ctx:CallContext) (dir:LedgerDir)
 (payload:RecordPayload) : LedgerDir×Except IoError Unit :=
 if payload.vacant then removeRecord dir (recordPath env payload.operationKey) ctx.faults
 else writeRecord env ctx dir payload

def loadPayload (env:LedgerEnv) (ctx:CallContext) (dir:LedgerDir) (operationKey:String) :
 Except IoError (RecordPayload×Bool) :=
 match readRecord env dir (recordPath env operationKey) operationKey with
 | .error error=>.error error
 | .ok payload=>.ok (normalize env ctx.processInstanceId ctx.nowMs
  (payload.getD (emptyRecord operationKey ctx.nowMs)))

def freshStage (env:LedgerEnv) (processInstanceId:String) (nowMs:ℕ) (fingerprint:UInt64)
 (ownerToken:String) (state:ActiveState) : ActiveOperation :=
 { fingerprint,ownerToken,processInstanceId,state
   message := none
   recordedAtMs := nowMs
   expiresAtMs := saturatingAdd nowMs env.unresolvedRetentionMs }

def canRotateAmbiguous (payload:RecordPayload) (fingerprint:UInt64) : Bool :=
 payload.active.any fun active=>
  active.state=.ambiguous&&active.fingerprint≠0&&fingerprint≠0 &&
   active.fingerprint≠fingerprint&&!isCompleted payload fingerprint

def claim (env:LedgerEnv) (ctx:CallContext) (dir:LedgerDir) (operationKey:String)
 (fingerprint:UInt64) (ownerToken:String) : LedgerDir×OperationAdmission :=
 match validateIdentity operationKey (some ownerToken) with
 | .error error=>(dir,.unavailable error.message)
 | .ok ()=>
  match env.storageDir with
  | .error error=>(dir,.unavailable error.message)
  | .ok false=>(dir,.allowed)
  | .ok true=>
   match loadPayload env ctx dir operationKey with
   | .error error=>(dir,.unavailable error.message)
   | .ok (payload,changed)=>
    let admission:=if canRotateAmbiguous payload fingerprint then .allowed
     else classify payload fingerprint
    if admission ≠ .allowed then
     if changed then
      match persistOrRemove env ctx dir payload with
      | (dir,.error error)=>(dir,.unavailable error.message)
      | (dir,.ok ())=>(dir,admission)
     else (dir,admission)
    else
     let stage:=freshStage env ctx.processInstanceId ctx.nowMs fingerprint ownerToken .prepared
     match writeRecord env ctx dir
      { payload with active := some stage,updatedAtMs := ctx.nowMs } with
     | (dir,.ok ())=>(dir,.allowed)
     | (dir,.error error)=>(dir,.unavailable error.message)

def transition (env:LedgerEnv) (ctx:CallContext) (dir:LedgerDir) (operationKey:String)
 (mutation:RecordPayload → RecordPayload×Bool) : LedgerDir×Except IoError Bool :=
 match validateIdentity operationKey none with
 | .error error=>(dir,.error error)
 | .ok ()=>
  match env.storageDir with
  | .error error=>(dir,.error error)
  | .ok false=>(dir,.ok true)
  | .ok true=>
   match loadPayload env ctx dir operationKey with
   | .error error=>(dir,.error error)
   | .ok (payload,normalized)=>
    let (payload,applied):=mutation payload
    if normalized||applied then
     match persistOrRemove env ctx dir { payload with updatedAtMs := ctx.nowMs } with
     | (dir,.error error)=>(dir,.error error)
     | (dir,.ok ())=>(dir,.ok applied)
    else (dir,.ok applied)

def ActiveOperation.heldBy (active:ActiveOperation) (fingerprint:UInt64) (ownerToken:String) : Bool :=
 active.fingerprint=fingerprint&&active.ownerToken=ownerToken

def markDispatched (env:LedgerEnv) (ctx:CallContext) (fingerprint:UInt64)
 (ownerToken:String) (payload:RecordPayload) : RecordPayload×Bool :=
 match payload.active with
 | none=>(payload,false)
 | some active=>
  if !active.heldBy fingerprint ownerToken then (payload,false)
  else if active.state=.prepared then
   ({ payload with active := some { active with
    state := .dispatched
    recordedAtMs := ctx.nowMs
    expiresAtMs := saturatingAdd ctx.nowMs env.unresolvedRetentionMs } },true)
  else (payload,true)

def transferOwner (fingerprint:UInt64) (previousOwner nextOwner:String) (payload:RecordPayload) : RecordPayload×Bool :=
 match payload.active with
 | none=>(payload,false)
 | some active=>
  if !active.heldBy fingerprint previousOwner then (payload,false)
  else ({ payload with active := some { active with ownerToken := nextOwner } },true)

def prepareStage (env:LedgerEnv) (ctx:CallContext) (ownerToken:String)
 (previousFingerprint nextFingerprint:UInt64) (payload:RecordPayload) : RecordPayload×Bool :=
 match payload.active with
 | none=>(payload,false)
 | some active=>
  if !active.heldBy previousFingerprint ownerToken||active.state=.prepared then
   (payload,false)
  else ({ payload with
   completed := addCompleted env payload.completed previousFingerprint ctx.nowMs
   active := some (freshStage env ctx.processInstanceId ctx.nowMs nextFingerprint ownerToken
    .prepared) },true)

/-- The completed history, which `prepare_stage_if_owner` extended, is left as it is. -/
def rollbackStage (env:LedgerEnv) (ctx:CallContext) (ownerToken:String)
 (fingerprint previousFingerprint:UInt64) (payload:RecordPayload) : RecordPayload×Bool :=
 if payload.active.any fun active=>active.heldBy fingerprint ownerToken then
  ({ payload with active := some (freshStage env ctx.processInstanceId ctx.laterMs
   previousFingerprint ownerToken .dispatched) },true)
 else (payload,false)

/-- A fingerprint that is already in the history is acknowledged as it is: the
entry keeps its time and the active stage stays. -/
def markCompleted (env:LedgerEnv) (ctx:CallContext) (fingerprint:UInt64)
 (ownerToken:String) (payload:RecordPayload) : RecordPayload×Bool :=
 if isCompleted payload fingerprint then (payload,true)
 else if payload.active.any fun active=>active.heldBy fingerprint ownerToken then
  ({ payload with
   completed := addCompleted env payload.completed fingerprint ctx.nowMs
   active := none },true)
 else (payload,false)

def markAmbiguous (env:LedgerEnv) (ctx:CallContext) (fingerprint:UInt64)
 (ownerToken message:String) (payload:RecordPayload) : RecordPayload×Bool :=
 match payload.active with
 | none=>(payload,false)
 | some active=>
  if !active.heldBy fingerprint ownerToken then (payload,false)
  else ({ payload with active := some { active with
   state := .ambiguous
   message := some (truncateMessage message)
   recordedAtMs := ctx.nowMs
   expiresAtMs := saturatingAdd ctx.nowMs env.unresolvedRetentionMs } },true)

def clear (fingerprint:UInt64) (ownerToken:String) (payload:RecordPayload) : RecordPayload×Bool :=
 if payload.active.any fun active=>active.heldBy fingerprint ownerToken then
  ({ payload with active := none },true)
 else (payload,false)

inductive LedgerOp where
 | claim (operationKey:String) (fingerprint:UInt64) (ownerToken:String)
 | markDispatchedIfOwner (operationKey:String) (fingerprint:UInt64) (ownerToken:String)
 | transferOwnerIf (operationKey:String) (fingerprint:UInt64)
  (previousOwner nextOwner:String)
 | prepareStageIfOwner (operationKey ownerToken:String)
  (previousFingerprint nextFingerprint:UInt64)
 | rollbackStageIfOwner (operationKey ownerToken:String)
  (fingerprint previousFingerprint:UInt64)
 | markCompletedIfOwner (operationKey:String) (fingerprint:UInt64) (ownerToken:String)
 | markAmbiguousIfOwner (operationKey:String) (fingerprint:UInt64)
  (ownerToken message:String)
 | clearIfOwner (operationKey:String) (fingerprint:UInt64) (ownerToken:String)
 deriving DecidableEq

def LedgerOp.key : LedgerOp → String
 | .claim key .. | .markDispatchedIfOwner key .. | .transferOwnerIf key ..
 | .prepareStageIfOwner key .. | .rollbackStageIfOwner key .. | .markCompletedIfOwner key ..
 | .markAmbiguousIfOwner key .. | .clearIfOwner key .. => key

inductive LedgerReply where
 | admission (verdict:OperationAdmission)
 | applied (result:Except IoError Bool)
 deriving DecidableEq

structure LedgerCall where
 op : LedgerOp
 ctx : CallContext

/-- An operation on behalf of an owner: the owner token is checked first. -/
def ownerTransition (env:LedgerEnv) (ctx:CallContext) (dir:LedgerDir) (operationKey:String)
 (ownerToken:String) (mutation:RecordPayload → RecordPayload×Bool) : LedgerDir×Except IoError Bool :=
 match validateIdentity operationKey (some ownerToken) with
 | .error error=>(dir,.error error)
 | .ok ()=>transition env ctx dir operationKey mutation

def markDispatchedIfOwner (env:LedgerEnv) (ctx:CallContext) (dir:LedgerDir)
 (operationKey:String) (fingerprint:UInt64) (ownerToken:String) : LedgerDir×Except IoError Bool :=
 ownerTransition env ctx dir operationKey ownerToken (markDispatched env ctx fingerprint ownerToken)

def transferOwnerIf (env:LedgerEnv) (ctx:CallContext) (dir:LedgerDir)
 (operationKey:String) (fingerprint:UInt64) (previousOwner nextOwner:String) : LedgerDir×Except IoError Bool :=
 match validateIdentity operationKey (some previousOwner) with
 | .error error=>(dir,.error error)
 | .ok ()=>ownerTransition env ctx dir operationKey nextOwner
  (transferOwner fingerprint previousOwner nextOwner)

def prepareStageIfOwner (env:LedgerEnv) (ctx:CallContext) (dir:LedgerDir)
 (operationKey ownerToken:String) (previousFingerprint nextFingerprint:UInt64) : LedgerDir×Except IoError Bool :=
 ownerTransition env ctx dir operationKey ownerToken
  (prepareStage env ctx ownerToken previousFingerprint nextFingerprint)

def rollbackStageIfOwner (env:LedgerEnv) (ctx:CallContext) (dir:LedgerDir)
 (operationKey ownerToken:String) (fingerprint previousFingerprint:UInt64) : LedgerDir×Except IoError Bool :=
 ownerTransition env ctx dir operationKey ownerToken (rollbackStage env ctx ownerToken fingerprint previousFingerprint)

def markCompletedIfOwner (env:LedgerEnv) (ctx:CallContext) (dir:LedgerDir)
 (operationKey:String) (fingerprint:UInt64) (ownerToken:String) : LedgerDir×Except IoError Bool :=
 ownerTransition env ctx dir operationKey ownerToken (markCompleted env ctx fingerprint ownerToken)

def markAmbiguousIfOwner (env:LedgerEnv) (ctx:CallContext) (dir:LedgerDir)
 (operationKey:String) (fingerprint:UInt64) (ownerToken message:String) : LedgerDir×Except IoError Bool :=
 ownerTransition env ctx dir operationKey ownerToken (markAmbiguous env ctx fingerprint ownerToken message)

def clearIfOwner (env:LedgerEnv) (ctx:CallContext) (dir:LedgerDir)
 (operationKey:String) (fingerprint:UInt64) (ownerToken:String) : LedgerDir×Except IoError Bool :=
 ownerTransition env ctx dir operationKey ownerToken (clear fingerprint ownerToken)

def step (env:LedgerEnv) (dir:LedgerDir) (call:LedgerCall) : LedgerDir×LedgerReply :=
 match call.op with
 | .claim key fingerprint owner=>
  (claim env call.ctx dir key fingerprint owner).map id .admission
 | .markDispatchedIfOwner key fingerprint owner=>
  (markDispatchedIfOwner env call.ctx dir key fingerprint owner).map id .applied
 | .transferOwnerIf key fingerprint previousOwner nextOwner=>
  (transferOwnerIf env call.ctx dir key fingerprint previousOwner nextOwner).map id .applied
 | .prepareStageIfOwner key owner previous next=>
  (prepareStageIfOwner env call.ctx dir key owner previous next).map id .applied
 | .rollbackStageIfOwner key owner fingerprint previous=>
  (rollbackStageIfOwner env call.ctx dir key owner fingerprint previous).map id .applied
 | .markCompletedIfOwner key fingerprint owner=>
  (markCompletedIfOwner env call.ctx dir key fingerprint owner).map id .applied
 | .markAmbiguousIfOwner key fingerprint owner message=>
  (markAmbiguousIfOwner env call.ctx dir key fingerprint owner message).map id .applied
 | .clearIfOwner key fingerprint owner=>
  (clearIfOwner env call.ctx dir key fingerprint owner).map id .applied

end CursorProxy.LedgerModel
