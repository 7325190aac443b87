import CursorProxy.AtomicSections
import CursorProxy.XmlElements

/-! A binding of a session holds the id of its Cursor conversation, a checkpoint and blobs. The
store is locked for each section of a call; the files are written and removed by whoever holds
the write lock. What a call does from one lock to the next is one section. -/
namespace CursorProxy.ConversationModel
open AtomicSections XmlElements

abbrev Bytes := List UInt8

def idleTtlMs : ℕ := 30*60*1000
def maxConversations : ℕ := 10000
def persistedSweepIntervalMs : ℕ := 60000
def cursorKvHardMaxBlobs : ℕ := 4096
def cursorKvHardMaxBytes : ℕ := 64*1024*1024
def cursorCheckpointMaxBytes : ℕ := 32*1024*1024
def maxPersistedJsonBytes : ℕ := 192*1024*1024
def cursorKvSoftMaxBlobs : ℕ := 3840
def cursorKvSoftMaxBytes : ℕ := 60*1024*1024

structure PendingPersistDelete where
 sessionId : String
 conversationId : Option String
 deriving DecidableEq

structure CursorConversation where
 conversationId : String
 checkpoint : Option Bytes
 blobs : AList fun _ : Bytes=>Bytes
 lastSeen : ℕ

structure Store where
 map : AList fun _ : String=>CursorConversation
 order : List String
 pins : AList fun _ : String=>ℕ

structure PersistedConversation where
 sessionId : String
 conversationId : String
 checkpointB64 : Option String
 blobsB64 : List (String×String)
 lastSeen : ℕ

/-- A `ConversationLease`, the conversation it was taken for, and whether its session was
reset since. -/
structure Lease where
 sessionId : String
 conversationId : String
 wasReset : Bool
 deriving DecidableEq

/-- The statics of the module and its directory. The leases that are held and the last
snapshot of each session whose write returned without an error are kept for the statements. -/
structure World where
 store : Store
 pendingPersistDeletes : List PendingPersistDelete
 files : AList fun _ : String=>Bytes
 writeLocked : Bool
 lastPersistedSweepMs : ℕ
 leases : List Lease
 written : AList fun _ : String=>CursorConversation

/-- The file of a session, if there is a directory, JSON and Base64. -/
structure ConversationEnv where
 persistPath : String → Option String
 toVec : PersistedConversation → Bytes
 fromSlice : Bytes → Option PersistedConversation
 b64Encode : Bytes → String
 b64Decode : String → Option Bytes

namespace Store

def pinned (store:Store) (sessionId:String) : Bool := (store.pins.lookup sessionId).isSome

def setEntry (store:Store) (sessionId:String) (entry:CursorConversation) : Store :=
 { store with map := store.map.insert sessionId entry }

def addEntry (store:Store) (sessionId:String) (entry:CursorConversation) : Store :=
 { store with
   map := store.map.insert sessionId entry
   order := store.order++[sessionId] }

/-- Idle for longer than `IDLE_TTL_MS`, and not pinned. -/
def expired (store:Store) (sessionId:String) (entry:CursorConversation) (now:ℕ) : Bool :=
 !store.pinned sessionId&&decide (idleTtlMs<now-entry.lastSeen)

end Store

def freshConversation (conversationId:String) (now:ℕ) : CursorConversation where
 conversationId := conversationId
 checkpoint := none
 blobs := ∅
 lastSeen := now

namespace World

def withStore (world:World) (store:Store) : World := { world with store := store }

def queuePersistedDelete (world:World) (sessionId:String) (conversation:Option CursorConversation) : World :=
 let pending : PendingPersistDelete :=
  ⟨sessionId,conversation.map CursorConversation.conversationId⟩
 if pending∈world.pendingPersistDeletes then world
 else { world with pendingPersistDeletes := world.pendingPersistDeletes++[pending] }

/-- Out of the map and the order, with its file queued. -/
def removeEntry (world:World) (sessionId:String) : World :=
 (world.withStore { world.store with
  map := world.store.map.erase sessionId
  order := world.store.order.filter (· ≠ sessionId) }).queuePersistedDelete sessionId
   (world.store.map.lookup sessionId)

/-- From the front of the order, as long as there are too many; what is pinned goes to the
end of it. -/
def evictOldest : ℕ → World → World
 | 0,world=>world
 | remaining+1,world=>
  if maxConversations<world.store.map.keys.length then
   match world.store.order with
   | []=>world
   | evict::rest=>
    if world.store.pinned evict then
     evictOldest remaining (world.withStore { world.store with order := rest++[evict] })
    else
     evictOldest remaining ((world.withStore { world.store with
      map := world.store.map.erase evict
      order := rest }).queuePersistedDelete evict (world.store.map.lookup evict))
  else world

def staleSessions (store:Store) (now:ℕ) : List String :=
 (store.map.entries.filter fun entry=>store.expired entry.1 entry.2 now).map Sigma.fst

def touch (store:Store) (sessionId:String) (now:ℕ) : Store :=
 match store.map.lookup sessionId with
 | some entry=>store.setEntry sessionId { entry with lastSeen := now }
 | none=>store

/-- The stale sessions in the order in which the map holds them. -/
def touchAndEvict (world:World) (sessionId:String) (now:ℕ) : World :=
 let touched:=world.withStore (touch world.store sessionId now)
 let evicted:=evictOldest touched.store.order.length touched
 (staleSessions evicted.store now).foldl
  (fun world key=>if key=sessionId then world else world.removeEntry key) evicted

end World

/-- Whether a write comes to its end, or fails before or after the file is replaced. -/
inductive WriteOutcome where
 | saved
 | failed (message:String) (renamed:Bool)

/-- What the file system answers within a section. -/
structure Io where
 write : WriteOutcome
 removes : Bool
 listing : Option (List String)

def persistedOf (env:ConversationEnv) (sessionId:String) (conv:CursorConversation) : PersistedConversation where
 sessionId := sessionId
 conversationId := conv.conversationId
 checkpointB64 := conv.checkpoint.map env.b64Encode
 blobsB64 := conv.blobs.entries.map fun blob=>(env.b64Encode blob.1,env.b64Encode blob.2)
 lastSeen := conv.lastSeen

/-- Without a directory the write is skipped, and no error. -/
def persistConversationUnlocked (env:ConversationEnv) (io:Io) (world:World)
 (sessionId:String) (conv:CursorConversation) : World×Option String :=
 let saved:={ world with written := world.written.insert sessionId conv }
 match env.persistPath sessionId with
 | none=>(saved,none)
 | some path=>
  let files:=world.files.insert path (env.toVec (persistedOf env sessionId conv))
  match io.write with
  | .saved=>({ saved with files := files },none)
  | .failed message true=>({ world with files := files },some message)
  | .failed message false=>(world,some message)

theorem persistConversationUnlocked_spec (env:ConversationEnv) (io:Io) (world:World)
 (sessionId:String) (conv:CursorConversation) :
 (persistConversationUnlocked env io world sessionId conv).1.store=world.store ∧
  (persistConversationUnlocked env io world sessionId conv).1.leases=world.leases ∧
  (persistConversationUnlocked env io world sessionId conv).1.written =
   if (persistConversationUnlocked env io world sessionId conv).2=none then
    world.written.insert sessionId conv
   else world.written:=by
 unfold persistConversationUnlocked
 dsimp only
 split
 · exact ⟨rfl,rfl,(if_pos rfl).symm⟩
 · split
   · exact ⟨rfl,rfl,(if_pos rfl).symm⟩
   · exact ⟨rfl,rfl,(if_neg (by simp)).symm⟩
   · exact ⟨rfl,rfl,(if_neg (by simp)).symm⟩

def loadBlobs (env:ConversationEnv) :
 List (String×String) → (AList fun _:Bytes=>Bytes) → ℕ →
  Option (AList fun _:Bytes=>Bytes)
 | [],blobs,_=>some blobs
 | (k,v)::rest,blobs,total=>
  (env.b64Decode k).bind fun key=>(env.b64Decode v).bind fun value=>
   let existing:=blobs.lookup key
   let nextCount:=blobs.keys.length+if existing.isSome then 0 else 1
   let nextTotal:=total-(existing.map List.length).getD 0+value.length
   if cursorKvHardMaxBlobs<nextCount ∨ cursorKvHardMaxBytes<nextTotal then none
   else loadBlobs env rest (blobs.insert key value) nextTotal

/-- A checkpoint that was not stored, one that was, or none that may be loaded. -/
def loadCheckpoint (env:ConversationEnv) : Option String → Option (Option Bytes)
 | none=>some none
 | some encoded=>
  (env.b64Decode encoded).bind fun checkpoint=>
   if cursorCheckpointMaxBytes<checkpoint.length then none else some (some checkpoint)

def loadPersisted (env:ConversationEnv) (world:World) (sessionId:String) : Option CursorConversation :=
 (env.persistPath sessionId).bind fun path=>(world.files.lookup path).bind fun bytes=>
  if maxPersistedJsonBytes<bytes.length then none
  else
   (env.fromSlice bytes).bind fun dto=>
    if dto.sessionId≠sessionId ∨ (trim dto.conversationId.toList).isEmpty then none
    else
     (loadCheckpoint env dto.checkpointB64).bind fun checkpoint=>
      (loadBlobs env dto.blobsB64 ∅ 0).map fun blobs=>
       ⟨dto.conversationId,checkpoint,blobs,dto.lastSeen⟩

def removeFile (io:Io) (world:World) (path:String) : World :=
 if io.removes then { world with files := world.files.erase path } else world

/-- Whether a queued delete still holds for the file that is there now. -/
def shouldDelete (env:ConversationEnv) (world:World) (pending:PendingPersistDelete) (path:String) : Bool :=
 let current:=world.store.map.lookup pending.sessionId
 let sameBinding:=pending.conversationId.any fun expected=>
  current.any fun entry=>entry.conversationId==expected
 let onDisk:=(world.files.lookup path).bind env.fromSlice
 if world.store.pinned pending.sessionId||sameBinding then false
 else
  match pending.conversationId,current,onDisk with
  | some expected,_,some dto=>
   dto.sessionId==pending.sessionId&&dto.conversationId==expected
  | none,none,some dto=>dto.sessionId==pending.sessionId
  | none,some entry,some dto=>
   dto.sessionId != pending.sessionId||dto.conversationId != entry.conversationId
  | _,_,none=>false

def flushPending (env:ConversationEnv) (io:Io) (world:World) (pending:PendingPersistDelete) : World :=
 match env.persistPath pending.sessionId with
 | some path=>if shouldDelete env world pending path then removeFile io world path else world
 | none=>world

def expirePersisted (env:ConversationEnv) (io:Io) (world:World) (path:String) (now:ℕ) : World :=
 match (world.files.lookup path).bind env.fromSlice with
 | none=>world
 | some dto=>
  let idle :=
   match world.store.map.lookup dto.sessionId with
   | some current=>world.store.expired dto.sessionId current now
   | none=>!world.store.pinned dto.sessionId
  if idleTtlMs<now-dto.lastSeen ∧ idle=true then removeFile io world path else world

/-- The binding that is returned, and whether it was created. -/
structure Found where
 world : World
 conversation : CursorConversation
 created : Bool

def createEntry (world:World) (sessionId:String) (now:ℕ) (fresh:String) : Found :=
 let created:=freshConversation fresh now
 ⟨(world.withStore (world.store.addEntry sessionId created)).touchAndEvict sessionId now,created,true⟩

/-- An entry of the files that is taken into memory. -/
def adopt (world:World) (sessionId:String) (disk:CursorConversation) (now:ℕ) : World :=
 (world.withStore (world.store.addEntry sessionId disk)).touchAndEvict sessionId now

def getOrCreate (env:ConversationEnv) (world:World) (sessionId:String) (now:ℕ) (fresh:String) : Found :=
 match world.store.map.lookup sessionId with
 | some existing=>
  if world.store.expired sessionId existing now then
   createEntry (world.removeEntry sessionId) sessionId now fresh
  else ⟨world.touchAndEvict sessionId now,existing,false⟩
 | none=>
  match loadPersisted env world sessionId with
  | some disk=>
   if now-disk.lastSeen ≤ idleTtlMs then ⟨adopt world sessionId disk now,disk,false⟩
   else createEntry (world.queuePersistedDelete sessionId none) sessionId now fresh
  | none=>createEntry world sessionId now fresh

def get (env:ConversationEnv) (world:World) (sessionId:String) (now:ℕ) : World×Option CursorConversation :=
 match world.store.map.lookup sessionId with
 | some existing=>
  if world.store.expired sessionId existing now then (world.removeEntry sessionId,none)
  else (world.touchAndEvict sessionId now,some existing)
 | none=>
  match loadPersisted env world sessionId with
  | none=>(world,none)
  | some disk=>
   if idleTtlMs<now-disk.lastSeen then (world.queuePersistedDelete sessionId none,none)
   else (adopt world sessionId disk now,some disk)

def pin (world:World) (sessionId expected:String) (now:ℕ) : World :=
 match world.store.map.lookup sessionId with
 | none=>world
 | some entry=>
  if entry.conversationId≠expected then world
  else
   let touched:=world.store.setEntry sessionId { entry with lastSeen := now }
   let count:=(touched.pins.lookup sessionId).getD 0+1
   { world with
     store := { touched with pins := touched.pins.insert sessionId count }
     leases := ⟨sessionId,expected,false⟩::world.leases }

def dropLease (world:World) (lease:Lease) : World :=
 let dropped:={ world with leases := world.leases.erase lease }
 match world.store.pins.lookup lease.sessionId with
 | none=>dropped
 | some count=>
  let pins :=
   if count-1=0 then world.store.pins.erase lease.sessionId
   else world.store.pins.insert lease.sessionId (count-1)
  dropped.withStore { world.store with pins := pins }

def ensureEntry (store:Store) (sessionId:String) (now:ℕ) (fresh:String) : Store :=
 if sessionId∈store.map then store
 else store.addEntry sessionId (freshConversation fresh now)

/-- What a change of a binding has written, and what was there before it. A merge touches
each of its blobs once. -/
inductive Undo where
 | checkpoint (written previous:Option Bytes)
 | blobs (written:AList fun _ : Bytes=>Bytes) (replaced:List (Bytes×Option Bytes))
  (hkeys:replaced.map Prod.fst=written.keys)

def insertBlobs (blobs:AList fun _ : Bytes=>Bytes) :
 List (Sigma fun _:Bytes=>Bytes) → AList fun _ : Bytes=>Bytes
 | []=>blobs
 | blob::rest=>insertBlobs (blobs.insert blob.1 blob.2) rest

def replacedBlobs (blobs:AList fun _ : Bytes=>Bytes) :
 List (Sigma fun _:Bytes=>Bytes) → List (Bytes×Option Bytes)
 | []=>[]
 | blob::rest=>
  (blob.1,blobs.lookup blob.1)::replacedBlobs (blobs.insert blob.1 blob.2) rest

theorem replacedBlobs_keys (inserted:List (Sigma fun _:Bytes=>Bytes)) :
 ∀ blobs:AList fun _ : Bytes=>Bytes,
  (replacedBlobs blobs inserted).map Prod.fst=inserted.keys:=by
 induction inserted with
 | nil=>exact fun _=>rfl
 | cons blob rest ih=>exact fun blobs=>congrArg (List.cons blob.1) (ih _)

abbrev Change := CursorConversation → CursorConversation×Undo

def replaceCheckpoint (checkpoint:Option Bytes) : Change := fun entry=>
 ({ entry with checkpoint := checkpoint },.checkpoint checkpoint entry.checkpoint)

def mergeInto (blobs:AList fun _ : Bytes=>Bytes) : Change := fun entry=>
 ({ entry with blobs := insertBlobs entry.blobs blobs.entries },
  .blobs blobs (replacedBlobs entry.blobs blobs.entries) (replacedBlobs_keys _ _))

def setChanged (world:World) (sessionId:String) (entry:CursorConversation) (now:ℕ) : World :=
 (world.withStore (world.store.setEntry sessionId { entry with lastSeen := now })).touchAndEvict
  sessionId now

/-- The binding is changed and touched; nothing where there is none. -/
def updateEntry (world:World) (sessionId:String) (now:ℕ) (change:Change) : World :=
 match world.store.map.lookup sessionId with
 | none=>world
 | some entry=>setChanged world sessionId (change entry).1 now

/-- `none` is `ConditionalPersist::StaleBinding`. -/
def updateIfCurrent (world:World) (sessionId expected:String) (now:ℕ) (change:Change) : Option (World×Undo) :=
 match world.store.map.lookup sessionId with
 | none=>none
 | some entry=>
  if entry.conversationId≠expected then none
  else some (setChanged world sessionId (change entry).1 now,(change entry).2)

def saveCheckpoint (world:World) (sessionId:String) (checkpoint:Bytes) (now:ℕ) (fresh:String) : World :=
 updateEntry (world.withStore (ensureEntry world.store sessionId now fresh)) sessionId now
  (replaceCheckpoint (some checkpoint))

def clearCheckpoint (world:World) (sessionId:String) (now:ℕ) : World :=
 updateEntry world sessionId now (replaceCheckpoint none)

def mergeBlobs (world:World) (sessionId:String) (blobs:AList fun _ : Bytes=>Bytes)
 (now:ℕ) (fresh:String) : World :=
 updateEntry (world.withStore (ensureEntry world.store sessionId now fresh)) sessionId now (mergeInto blobs)

def saveCheckpointIfCurrent (world:World) (sessionId expected:String) (checkpoint:Bytes)
 (now:ℕ) : Option (World×Undo) :=
 updateIfCurrent world sessionId expected now (replaceCheckpoint (some checkpoint))

def clearCheckpointIfCurrent (world:World) (sessionId expected:String) (now:ℕ) : Option (World×Undo) :=
 updateIfCurrent world sessionId expected now (replaceCheckpoint none)

def mergeBlobsIfCurrent (world:World) (sessionId expected:String)
 (blobs:AList fun _ : Bytes=>Bytes) (now:ℕ) : Option (World×Undo) :=
 updateIfCurrent world sessionId expected now (mergeInto blobs)

def rollBackCheckpoint (written previous:Option Bytes) (entry:CursorConversation) : CursorConversation :=
 if entry.checkpoint=written then { entry with checkpoint := previous } else entry

def rollBackBlob (written blobs:AList fun _ : Bytes=>Bytes)
 (replaced:Bytes×Option Bytes) : AList fun _ : Bytes=>Bytes :=
 let stillOurs:=(written.lookup replaced.1).any fun data=>blobs.lookup replaced.1==some data
 if stillOurs then
  match replaced.2 with
  | some previous=>blobs.insert replaced.1 previous
  | none=>blobs.erase replaced.1
 else blobs

def rollBackBlobs (written:AList fun _ : Bytes=>Bytes)
 (replaced:List (Bytes×Option Bytes)) (entry:CursorConversation) : CursorConversation :=
 { entry with blobs := replaced.foldl (rollBackBlob written) entry.blobs }

def Undo.rollBack : Undo → CursorConversation → CursorConversation
 | .checkpoint written previous=>rollBackCheckpoint written previous
 | .blobs written replaced _=>rollBackBlobs written replaced

theorem Undo.rollBack_conversationId (undo:Undo) (entry:CursorConversation) :
 (undo.rollBack entry).conversationId=entry.conversationId:=by
 cases undo with
 | checkpoint written previous=>
  change (rollBackCheckpoint written previous entry).conversationId=_
  unfold rollBackCheckpoint
  split <;> rfl
 | blobs written replaced=>rfl

def rollBack (world:World) (sessionId expected:String) (undo:Undo) : World :=
 match world.store.map.lookup sessionId with
 | none=>world
 | some entry=>
  if entry.conversationId=expected then
   world.withStore (world.store.setEntry sessionId (undo.rollBack entry))
  else world

def reset (world:World) (sessionId:String) (now:ℕ) (fresh:String) : World :=
 let entry:=freshConversation fresh now
 let store :=
  if sessionId∈world.store.order then world.store.setEntry sessionId entry
  else world.store.addEntry sessionId entry
 { world with
   store := store
   leases := world.leases.map fun lease=>
    if lease.sessionId=sessionId then { lease with wasReset := true } else lease }

def blobTotalBytes (blobs:AList fun _ : Bytes=>Bytes) : ℕ :=
 (blobs.entries.map fun blob=>blob.2.length).sum

def kvStoreNearLimit (conv:CursorConversation) : Bool :=
 decide (cursorKvSoftMaxBlobs ≤ conv.blobs.keys.length ∨ cursorKvSoftMaxBytes ≤ blobTotalBytes conv.blobs)

/-- `none` where nothing is rotated. -/
def normalizeKvStore (world:World) (sessionId expected:String) (now:ℕ) (fresh:String) : Option World :=
 (world.store.map.lookup sessionId).bind fun entry=>
  if entry.conversationId≠expected ∨ world.store.pinned sessionId=true ∨
   kvStoreNearLimit entry=false then none
  else
   some (world.withStore (world.store.setEntry sessionId (freshConversation fresh now)))

inductive Action where
 /-- `flush_pending_persisted_deletes`, up to the first of the queued deletes. -/
 | flush
 /-- `persist_write_lock`, and the queue taken. -/
 | lock
 | delete (pending:PendingPersistDelete)
 | unlock
 | sweep (now:ℕ)
 | list (now:ℕ)
 | expire (path:String) (now:ℕ)
 | getOrCreate (sessionId:String) (now:ℕ) (fresh:String)
 | get (sessionId:String) (now:ℕ)
 | pin (sessionId expected:String) (now:ℕ)
 | dropLease (lease:Lease)
 | reset (sessionId:String) (now:ℕ) (fresh:String)
 | normalize (sessionId expected:String) (now:ℕ) (fresh:String)
 | save (sessionId:String) (checkpoint:Bytes) (now:ℕ) (fresh:String)
 | clear (sessionId:String) (now:ℕ)
 | merge (sessionId:String) (blobs:AList fun _ : Bytes=>Bytes) (now:ℕ) (fresh:String)
 | saveIfCurrent (sessionId expected:String) (checkpoint:Bytes) (now:ℕ)
 | clearIfCurrent (sessionId expected:String) (now:ℕ)
 | mergeIfCurrent (sessionId expected:String) (blobs:AList fun _ : Bytes=>Bytes) (now:ℕ)
 /-- The snapshot of `persist_conversation`. -/
 | persist (sessionId:String)
 /-- The snapshot of `persist_conversation_if_current`. -/
 | persistIfCurrent (sessionId expected:String) (undo:Undo)
 | write (sessionId:String) (snapshot:CursorConversation)
 | writeIfCurrent (sessionId expected:String) (snapshot:CursorConversation) (undo:Undo)
 | rollBack (sessionId expected:String) (undo:Undo)

def persistConversation (sessionId:String) : List Action := [.lock,.persist sessionId]

def persistConversationIfCurrent (sessionId expected:String) (undo:Undo) : List Action :=
 [.lock,.persistIfCurrent sessionId expected undo]

def takeLock (world:World) : World×List Action :=
 ({ world with
  pendingPersistDeletes := []
  writeLocked := true },world.pendingPersistDeletes.map Action.delete)

def release (world:World) : World := { world with writeLocked := false }

/-- A change that was made is persisted; a stale binding ends the call. -/
def changed (world:World) (sessionId expected:String) : Option (World×Undo) → World×List Action
 | some (next,undo)=>(next,persistConversationIfCurrent sessionId expected undo)
 | none=>(world,[])

/-- What a section does to the world, and what its call does next; `none` is a wait for the
write lock. -/
def runAction (env:ConversationEnv) (io:Io) (action:Action) (world:World) : Option (World×List Action) :=
 match action with
 | .flush=>
  if world.pendingPersistDeletes.isEmpty then some (world,[])
  else if world.writeLocked then none
  else
   let (next,deletes):=takeLock world
   some (next,deletes++[.unlock])
 | .lock=>if world.writeLocked then none else some (takeLock world)
 | .delete pending=>some (flushPending env io world pending,[])
 | .unlock=>some (release world,[])
 | .sweep now=>
  if world.lastPersistedSweepMs≠0 ∧
   now-world.lastPersistedSweepMs<persistedSweepIntervalMs then some (world,[])
  else some ({ world with lastPersistedSweepMs := now },[.flush,.list now])
 | .list now=>some (world,(io.listing.getD []).map fun path=>.expire path now)
 | .expire path now=>
  if world.writeLocked then none else some (expirePersisted env io world path now,[])
 | .getOrCreate sessionId now fresh=>
  let found:=getOrCreate env world sessionId now fresh
  some (found.world,.flush::if found.created then persistConversation sessionId else [])
 | .get sessionId now=>some ((get env world sessionId now).1,[.flush])
 | .pin sessionId expected now=>some (pin world sessionId expected now,[])
 | .dropLease lease=>if lease∈world.leases then some (dropLease world lease,[]) else none
 | .reset sessionId now fresh=>
  some (reset world sessionId now fresh,persistConversation sessionId)
 | .normalize sessionId expected now fresh=>
  match normalizeKvStore world sessionId expected now fresh with
  | some next=>some (next,persistConversation sessionId)
  | none=>some (world,[])
 | .save sessionId checkpoint now fresh=>
  some (saveCheckpoint world sessionId checkpoint now fresh,persistConversation sessionId)
 | .clear sessionId now=>
  some (clearCheckpoint world sessionId now,
   if sessionId∈world.store.map then persistConversation sessionId else [])
 | .merge sessionId blobs now fresh=>
  some (mergeBlobs world sessionId blobs now fresh,persistConversation sessionId)
 | .saveIfCurrent sessionId expected checkpoint now=>
  some (changed world sessionId expected (saveCheckpointIfCurrent world sessionId expected checkpoint now))
 | .clearIfCurrent sessionId expected now=>
  some (changed world sessionId expected (clearCheckpointIfCurrent world sessionId expected now))
 | .mergeIfCurrent sessionId expected blobs now=>
  some (changed world sessionId expected (mergeBlobsIfCurrent world sessionId expected blobs now))
 | .persist sessionId=>
  match world.store.map.lookup sessionId with
  | some snapshot=>some (world,[.write sessionId snapshot])
  | none=>some (release world,[])
 | .persistIfCurrent sessionId expected undo=>
  match world.store.map.lookup sessionId with
  | some current=>
   if current.conversationId≠expected then some (release world,[])
   else some (world,[.writeIfCurrent sessionId expected current undo])
  | none=>some (release world,[])
 | .write sessionId snapshot=>
  some (release (persistConversationUnlocked env io world sessionId snapshot).1,[])
 | .writeIfCurrent sessionId expected snapshot undo=>
  let (next,error):=persistConversationUnlocked env io world sessionId snapshot
  some (release next,if error.isSome then [.rollBack sessionId expected undo] else [])
 | .rollBack sessionId expected undo=>some (rollBack world sessionId expected undo,[])

/-- The clock is read, and a fresh id is drawn, where a call begins. -/
inductive Call where
 | getOrCreate (sessionId:String) (now:ℕ) (fresh:String)
 | get (sessionId:String) (now:ℕ)
 | pin (sessionId expected:String) (now:ℕ)
 | dropLease (lease:Lease)
 | reset (sessionId:String) (now:ℕ) (fresh:String)
 | normalizeKvStore (sessionId expected:String) (now:ℕ) (fresh:String)
 | saveCheckpoint (sessionId:String) (checkpoint:Bytes) (now:ℕ) (fresh:String)
 | clearCheckpoint (sessionId:String) (now:ℕ)
 | mergeBlobs (sessionId:String) (blobs:AList fun _ : Bytes=>Bytes) (now:ℕ)
  (fresh:String)
 | saveCheckpointIfCurrent (sessionId expected:String) (checkpoint:Bytes) (now:ℕ)
 | clearCheckpointIfCurrent (sessionId expected:String) (now:ℕ)
 | mergeBlobsIfCurrent (sessionId expected:String) (blobs:AList fun _ : Bytes=>Bytes)
  (now:ℕ)

def Call.sections : Call → List Action
 | .getOrCreate sessionId now fresh=>[.flush,.sweep now,.getOrCreate sessionId now fresh]
 | .get sessionId now=>[.flush,.get sessionId now]
 | .pin sessionId expected now=>[.pin sessionId expected now]
 | .dropLease lease=>[.dropLease lease]
 | .reset sessionId now fresh=>[.reset sessionId now fresh]
 | .normalizeKvStore sessionId expected now fresh=>[.normalize sessionId expected now fresh]
 | .saveCheckpoint sessionId checkpoint now fresh=>
  if checkpoint.isEmpty then [] else [.save sessionId checkpoint now fresh]
 | .clearCheckpoint sessionId now=>[.clear sessionId now]
 | .mergeBlobs sessionId blobs now fresh=>
  if blobs.entries.isEmpty then [] else [.merge sessionId blobs now fresh]
 | .saveCheckpointIfCurrent sessionId expected checkpoint now=>
  if checkpoint.isEmpty then [] else [.saveIfCurrent sessionId expected checkpoint now]
 | .clearCheckpointIfCurrent sessionId expected now=>[.clearIfCurrent sessionId expected now]
 | .mergeBlobsIfCurrent sessionId expected blobs now=>
  if blobs.entries.isEmpty then [] else [.mergeIfCurrent sessionId expected blobs now]

def conversations (env:ConversationEnv) : System World Action Io Call where
 sections := Call.sections
 run := runAction env

end CursorProxy.ConversationModel
