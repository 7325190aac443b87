import Mathlib

/-! A request reads the state of its session under one lock and records the next one, made from
the state that it read, under another. -/
namespace CursorProxy.SessionModel

inductive AliasProvider where
 | codex
 | kimi
 | cursor
 deriving DecidableEq

structure SessionState where
 seq : ℕ
 affinityProvider : Option AliasProvider
 lastSeen : ℕ
 deriving DecidableEq

def sessionIdleTtlMs : ℕ := 30*60*1000

def maxSessions : ℕ := 10000

/-- `is_anthropic_alias(normalize_incoming_model(model))`. -/
structure SessionEnv where
 isAnthropicAlias : String → Bool

def isAliasRoutableProvider (name:String) : Bool :=
 name = "codex" || name = "kimi" || name = "cursor"

variable {κ:Type} [DecidableEq κ]

/-- The queue of the keys is kept apart from the map. -/
structure SessionStore (κ:Type) where
 map : κ → Option SessionState
 order : List κ

namespace SessionStore

def empty : SessionStore κ := ⟨fun _=>none,[]⟩

def remove (store:SessionStore κ) (id:κ) : SessionStore κ :=
 ⟨Function.update store.map id none,store.order.filter fun item=>item≠id⟩

def existingSession (store:SessionStore κ) (id:κ) (now:ℕ) : Option SessionState×SessionStore κ :=
 match store.map id with
 | none=>(none,store)
 | some state=>
  if now-state.lastSeen > sessionIdleTtlMs then (none,store.remove id)
  else (some state,store)

/-- The front of the queue is dropped while the queue is too long. -/
def evict (map:κ → Option SessionState) : List κ → SessionStore κ
 | []=>⟨map,[]⟩
 | id::order=>
  if (id::order).length > maxSessions then evict (Function.update map id none) order
  else ⟨map,id::order⟩

/-- Whether the request names a provider of its own. -/
def pins (env:SessionEnv) (providerName model:String) : Bool :=
 isAliasRoutableProvider providerName&&!env.isAnthropicAlias model

def nextState (env:SessionEnv) (prior:Option SessionState) (providerName model:String) (now:ℕ) : SessionState :=
 let next:=prior.getD ⟨0,none,now⟩
 { next with
   seq := next.seq+1
   lastSeen := now
   affinityProvider :=
    if pins env providerName model then
     some (if providerName = "codex" then .codex
      else if providerName = "kimi" then .kimi
      else if providerName = "cursor" then .cursor
      else next.affinityProvider.getD .cursor)
    else next.affinityProvider }

def touched (store:SessionStore κ) (id:κ) : List κ :=
 (store.order.filter fun item=>item≠id)++[id]

def recordSessionRequest (env:SessionEnv) (store:SessionStore κ) (id:κ)
 (prior:Option SessionState) (providerName model:String) (now:ℕ) : SessionState×SessionStore κ :=
 let next:=nextState env prior providerName model now
 (next,evict (Function.update store.map id (some next)) (store.touched id))

end SessionStore

/-- `recorded` is only looked at in statements: the records of the session at the read. -/
structure Reading (κ:Type) where
 id : κ
 prior : Option SessionState
 recorded : ℕ

structure Record (κ:Type) where
 id : κ
 state : SessionState
 pinned : Bool

structure Sessions (ρ κ:Type) where
 store : SessionStore κ
 callers : ρ → Option (Reading κ)
 log : List (Record κ)

inductive Action (ρ κ:Type) where
 | read (caller:ρ) (id:κ) (now:ℕ)
 | record (caller:ρ) (providerName model:String) (now:ℕ)

def Action.now {ρ:Type} : Action ρ κ → ℕ
 | .read _ _ now=>now
 | .record _ _ _ now=>now

namespace Sessions
variable {ρ:Type} [DecidableEq ρ]

def start : Sessions ρ κ := ⟨.empty,fun _=>none,[]⟩

def recordsOf (log:List (Record κ)) (id:κ) : ℕ :=
 log.countP fun record=>record.id=id

def step (env:SessionEnv) (s:Sessions ρ κ) : Action ρ κ → Sessions ρ κ
 | .read caller id now=>
  let result:=s.store.existingSession id now
  { s with
    store := result.2
    callers := Function.update s.callers caller (some ⟨id,result.1,recordsOf s.log id⟩) }
 | .record caller providerName model now=>
  match s.callers caller with
  | none=>s
  | some reading=>
   let result:=s.store.recordSessionRequest env reading.id reading.prior providerName model now
   { store := result.2
     callers := Function.update s.callers caller none
     log := ⟨reading.id,result.1,SessionStore.pins env providerName model⟩::s.log }

def run (env:SessionEnv) (s:Sessions ρ κ) (actions:List (Action ρ κ)) : Sessions ρ κ :=
 actions.foldl (step env) s

end Sessions
end CursorProxy.SessionModel
