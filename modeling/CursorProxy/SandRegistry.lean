import CursorProxy.SandFidelity

/-! The registry maps a key to the entry of its operation. An admission holds the registry lock
from its pruning pass to its answer; the entries go on publishing and finishing meanwhile, so
that every look at an entry is a step of its own with its own reading of the clock. -/
namespace CursorProxy.SandRegistry
open SandModel

def maxOperationKeyBytes : ℕ := 512

def digest (value:String) : UInt64 :=
 value.toUTF8.data.toList.foldl (fun hash byte=>(hash ^^^ byte.toUInt64)*0x100000001b3)
  0xcbf29ce484222325

/-- The format `016x`. -/
def paddedHex (n:ℕ) : List Char :=
 (List.range 16).reverse.map fun place=>Nat.digitChar (n / 16 ^ place % 16)

/-- Cut at the last character boundary up to the given byte. -/
def truncate (boundary:ℕ) : List Char → List Char
 | []=>[]
 | char::chars=>
  if char.utf8Size ≤ boundary then char::truncate (boundary-char.utf8Size) chars else []

theorem truncate_size (boundary:ℕ) (chars:List Char) : String.utf8Len (truncate boundary chars) ≤ boundary:=by
 induction chars generalizing boundary with
 | nil=>exact Nat.zero_le _
 | cons char chars ih=>
  unfold truncate
  split_ifs with hfits
  · have hrest:=ih (boundary-char.utf8Size)
    rw [String.utf8Len_cons]
    omega
  · exact Nat.zero_le _

theorem digitChar_size : ∀ digit<16,(Nat.digitChar digit).utf8Size=1 := by decide

theorem paddedHex_size (n:ℕ) : String.utf8Len (paddedHex n)=16:=by
 have hplaces:∀ places:List ℕ,String.utf8Len
  (places.map fun place=>Nat.digitChar (n / 16 ^ place % 16))=places.length:=by
  intro places
  induction places with
  | nil=>rfl
  | cons place places ih=>
   rw [List.map_cons,String.utf8Len_cons,ih,digitChar_size _ (Nat.mod_lt _ (by decide)),List.length_cons]
 exact hplaces _

def shortened (value:String) : List Char :=
 let suffix := '-' :: paddedHex (digest value).toNat
 truncate (maxOperationKeyBytes-String.utf8Len suffix) value.toList++suffix

theorem shortened_size (value:String) : (String.ofList (shortened value)).utf8ByteSize ≤ maxOperationKeyBytes:=by
 have hsuffix:String.utf8Len ('-' :: paddedHex (digest value).toNat)=17:=by
  rw [String.utf8Len_cons,paddedHex_size]
  rfl
 have hkept:=truncate_size (maxOperationKeyBytes-17) value.toList
 rw [String.utf8ByteSize_ofList]
 unfold shortened
 rw [String.utf8Len_append,hsuffix]
 unfold maxOperationKeyBytes at *
 omega

/-- A key is never longer than its limit, whatever the client sent. -/
structure SandOperationKey where
 value : String
 bounded : value.utf8ByteSize ≤ maxOperationKeyBytes
 deriving DecidableEq

def SandOperationKey.new (value:String) : SandOperationKey :=
 if h : value.utf8ByteSize ≤ maxOperationKeyBytes then ⟨value,h⟩
 else ⟨String.ofList (shortened value),shortened_size value⟩

/-- An owner and a subscriber come with the entry they belong to. -/
inductive SandOperationAdmission where
 | owner (entry:ℕ)
 | subscriber (entry:ℕ)
 | replayUnavailable
 | capacityExceeded
 | subscriberLimit
 deriving DecidableEq

def subscriptionAnswer (id:ℕ) : Except SubscribeError ℕ → SandOperationAdmission
 | .ok _=>.subscriber id
 | .error .replayUnavailable=>.replayUnavailable
 | .error .subscriberLimit=>.subscriberLimit

/-- How far the running admission is: the keys a pass has still to visit, and the
oldest entry an eviction found so far. -/
inductive AdmissionStage where
 | pruning (pending:List SandOperationKey)
 | evicting (pending:List SandOperationKey) (oldest:Option (SandOperationKey×ℕ))

structure Admission where
 key : SandOperationKey
 stage : AdmissionStage

/-- What an admission answered, and the last reading of the clock before it. -/
structure Outcome where
 key : SandOperationKey
 answer : SandOperationAdmission
 time : ℕ

abbrev Operations := AList fun _ : SandOperationKey=>ℕ

/-- `owners` are the keys the owners hold. The registry lock is held exactly while
there is an `admission`. The `outcomes` are beyond the code. -/
structure RegistryState where
 operations : Operations
 entries : ℕ → SandState
 owners : ℕ → SandOperationKey
 nextEntry : ℕ
 admission : Option Admission
 clock : ℕ
 outcomes : List Outcome

def RegistryState.new (env:SandEnv) : RegistryState :=
 ⟨∅,fun _=>.new env,fun _=>.new "",0,none,0,[]⟩

namespace RegistryState

def finishedAt (state:RegistryState) (key:SandOperationKey) : Option ℕ :=
 (state.operations.lookup key).bind fun id=>(state.entries id).entry.finishedAt

def answer (state:RegistryState) (key:SandOperationKey) (answer:SandOperationAdmission) : RegistryState :=
 { state with
   admission := none
   outcomes := state.outcomes++[⟨key,answer,state.clock⟩] }

def remove (state:RegistryState) (key:SandOperationKey) : RegistryState :=
 { state with operations := state.operations.erase key }

def withEntry (state:RegistryState) (id:ℕ) (entry:SandState) : RegistryState :=
 { state with entries := Function.update state.entries id entry }

/-- A duplicate subscribes to the entry of its key. -/
def join (env:SandEnv) (state:RegistryState) (key:SandOperationKey) (id:ℕ) : RegistryState :=
 let subscribed:=(state.entries id).subscribe env false
 (state.withEntry id subscribed.1).answer key (subscriptionAnswer id subscribed.2)

def insert (env:SandEnv) (state:RegistryState) (key:SandOperationKey) : RegistryState :=
 { state with
   operations := state.operations.insert key state.nextEntry
   entries := Function.update state.entries state.nextEntry (SandState.admitted env)
   owners := Function.update state.owners state.nextEntry key
   nextEntry := state.nextEntry+1 }

def own (env:SandEnv) (state:RegistryState) (key:SandOperationKey) : RegistryState :=
 (state.insert env key).answer key (.owner state.nextEntry)

def prune (env:SandEnv) (state:RegistryState) (key:SandOperationKey) : RegistryState :=
 match state.finishedAt key with
 | some finished=>
  if state.clock-finished<env.terminalReplayTtl then state else state.remove key
 | none=>state

/-- One look of `evict_finished_entry`: among equally old entries the first stays. -/
def scan (env:SandEnv) (state:RegistryState) (key:SandOperationKey)
 (oldest:Option (SandOperationKey×ℕ)) : Option (SandOperationKey×ℕ) :=
 match state.finishedAt key with
 | some finished=>
  if state.clock-finished<env.terminalReplayTtl then oldest
  else
   match oldest with
   | some (_,earliest)=>if finished<earliest then some (key,finished) else oldest
   | none=>some (key,finished)
 | none=>oldest

end RegistryState

inductive RegistryAction where
 | request (key:SandOperationKey) (order:List SandOperationKey)
 | prune (now:ℕ)
 | lookup (order:List SandOperationKey)
 | scan (now:ℕ)
 | evict
 /-- An entry goes its own way; duplicates come through admissions only. -/
 | operate (id:ℕ) (action:SandAction)

def RegistryAction.reading : RegistryAction → Option ℕ
 | .prune now | .scan now=>some now
 | .operate _ (.finish now) | .operate _ (.dropOwner now)=>some now
 | _=>none

namespace RegistryState

def act (env:SandEnv) (state:RegistryState) : RegistryAction → Option RegistryState
 | .request key order=>
  if state.admission.isNone ∧ order.Perm state.operations.keys then
   some { state with admission := some ⟨key,.pruning order⟩ }
  else none
 | .prune _=>
  match state.admission with
  | some ⟨key,.pruning (visited::pending)⟩=>
   some { state.prune env visited with admission := some ⟨key,.pruning pending⟩ }
  | _=>none
 | .lookup order=>
  match state.admission with
  | some ⟨key,.pruning []⟩=>
   match state.operations.lookup key with
   | some id=>some (state.join env key id)
   | none=>
    if env.operationEntryLimit ≤ state.operations.keys.length then
     if order.Perm state.operations.keys then
      some { state with admission := some ⟨key,.evicting order none⟩ }
     else none
    else some (state.own env key)
  | _=>none
 | .scan _=>
  match state.admission with
  | some ⟨key,.evicting (visited::pending) oldest⟩=>
   some { state with
    admission := some ⟨key,.evicting pending (state.scan env visited oldest)⟩ }
  | _=>none
 | .evict=>
  match state.admission with
  | some ⟨key,.evicting [] (some (oldest,_))⟩=>some ((state.remove oldest).own env key)
  | some ⟨key,.evicting [] none⟩=>some (state.answer key .capacityExceeded)
  | _=>none
 | .operate _ .subscribe=>none
 | .operate id action=>
  if id<state.nextEntry then ((state.entries id).step env action).map (state.withEntry id)
  else none

def step (env:SandEnv) (state:RegistryState) (action:RegistryAction) : Option RegistryState :=
 match action.reading with
 | some now=>
  if state.clock ≤ now then ({ state with clock := now } : RegistryState).act env action else none
 | none=>state.act env action

end RegistryState

end CursorProxy.SandRegistry
