import CursorProxy.XmlElements

namespace CursorProxy.LiveCatalogs

abbrev Table (α:Type) := Std.TreeMap String α

structure LiveCatalogSnapshot where
 fetchedAt : ℕ
 models : List String

structure AccountLiveCatalog where
 generation : ℕ
 lastObservedAt : ℕ
 /-- By request identity. -/
 snapshots : Table LiveCatalogSnapshot

structure LiveCatalogCache where
 activeAccountKey : Option String
 /-- A `u64` that does not wrap. -/
 generation : ℕ
 accounts : Table AccountLiveCatalog
 legacySnapshots : Table LiveCatalogSnapshot

/-- `cursor_account_digest`, and `sort_unstable_by_key`, which may order ties at will. -/
structure CatalogEnv where
 accountCatalogKey : String → String
 sortByObserved : List (String×ℕ) → List (String×ℕ)
 sort_perm : ∀ entries,(sortByObserved entries).Perm entries
 sort_sorted : ∀ entries,(sortByObserved entries).Pairwise fun first second=>
  first.2 ≤ second.2

def liveCatalogTtl : ℕ := 5*60*10 ^ 9

def liveCatalogMaxAccounts : ℕ := 64

def snapshotIsFresh (now:ℕ) (snapshot:LiveCatalogSnapshot) : Bool :=
 now-snapshot.fetchedAt<liveCatalogTtl

def dropExpired (now:ℕ) (snapshots:Table LiveCatalogSnapshot) : Table LiveCatalogSnapshot :=
 snapshots.filter fun _ snapshot=>snapshotIsFresh now snapshot

def retainAccount (now:ℕ) (active:Option String) (key:String)
 (account:AccountLiveCatalog) : Option AccountLiveCatalog :=
 let account:={ account with snapshots := dropExpired now account.snapshots }
 if account.snapshots.isEmpty=false ∨ active=some key then some account else none

/-- The accounts that were observed longest ago, as many as there are too many. -/
def evicted (env:CatalogEnv) (active:Option String) (accounts:Table AccountLiveCatalog) : List String :=
 let candidates:=(accounts.toList.filter fun entry=>active≠some entry.1).map
  fun entry=>(entry.1,entry.2.lastObservedAt)
 ((env.sortByObserved candidates).take (accounts.size-liveCatalogMaxAccounts)).map Prod.fst

def prune (env:CatalogEnv) (now:ℕ) (cache:LiveCatalogCache) : LiveCatalogCache :=
 let accounts:=cache.accounts.filterMap (retainAccount now cache.activeAccountKey)
 { cache with
   legacySnapshots := dropExpired now cache.legacySnapshots
   accounts :=
    if accounts.size ≤ liveCatalogMaxAccounts then accounts
    else (evicted env cache.activeAccountKey accounts).foldl (fun table key=>table.erase key)
     accounts }

/-- `sand` in any case is one identity, and nothing is `cli`. -/
def liveCatalogIdentityKey (clientType:String) : String :=
 let trimmed:=XmlElements.trim clientType.toList
 if trimmed.map Char.toLower = "sand".toList then "sand"
 else if trimmed.isEmpty then "cli"
 else String.ofList trimmed

def storeAtGeneration (env:CatalogEnv) (now:ℕ) (token clientType:String) (generation:ℕ)
 (models:List String) (cache:LiveCatalogCache) : LiveCatalogCache :=
 let cache:=prune env now cache
 match cache.accounts[env.accountCatalogKey token]? with
 | none=>cache
 | some account=>
  if account.generation≠generation then cache
  else { cache with
   accounts := cache.accounts.insert (env.accountCatalogKey token) { account with
    lastObservedAt := now
    snapshots := account.snapshots.insert (liveCatalogIdentityKey clientType) ⟨now,models⟩ } }

/-- `observe_live_usable_models_account`, and the generation that it returns. -/
def observe (env:CatalogEnv) (now:ℕ) (token:String) (cache:LiveCatalogCache) : LiveCatalogCache×ℕ :=
 let key:=env.accountCatalogKey token
 let cache:=prune env now cache
 let switched:=cache.activeAccountKey≠some key
 let generation:=if switched then cache.generation+1 else cache.generation
 let account:=(cache.accounts[key]?).getD ⟨generation,now,∅⟩
 let account:={ account with
  generation := if switched then generation else account.generation
  lastObservedAt := now }
 (prune env now { cache with
  generation := generation
  activeAccountKey := some key
  accounts := cache.accounts.insert key account },account.generation)

def clear (cache:LiveCatalogCache) : LiveCatalogCache where
 activeAccountKey := none
 generation :=
  if cache.activeAccountKey.isSome ∨ cache.accounts.isEmpty=false ∨
   cache.legacySnapshots.isEmpty=false then cache.generation+1
  else cache.generation
 accounts := ∅
 legacySnapshots := ∅

def modelsOf (snapshots:Table LiveCatalogSnapshot) : List String :=
 snapshots.toList.flatMap fun entry=>entry.2.models

def listed (models:List String) : List String := models.dedup.mergeSort (· ≤ ·)

/-- `cached_live_usable_models`, once the cache is pruned. -/
def discovered (cache:LiveCatalogCache) : Option (List String) :=
 let models:=match cache.activeAccountKey with
  | some key=>match cache.accounts[key]? with
   | some account=>modelsOf account.snapshots
   | none=>[]
  | none=>modelsOf cache.legacySnapshots
 if (listed models).isEmpty then none else some (listed models)

def stripSuffix (suffix text:List Char) : Option (List Char) :=
 if suffix.isSuffixOf text then some (text.take (text.length-suffix.length)) else none

def trimEnd (text:List Char) : List Char := text.rdropWhile XmlElements.isWhitespace

def stripMarker (text:List Char) (suffix:String) : List Char :=
 ((stripSuffix suffix.toList text).map trimEnd).getD text

/-- What stands before the last bracket and within it, if the text ends with a bracket. -/
def splitBrackets (text:List Char) : Option (List Char×List Char) :=
 if text.getLast?=some ')' ∧ '(' ∈ text then
  let inner:=(text.reverse.takeWhile (· ≠ '(')).reverse
  some (text.take (text.length-inner.length-1),inner.dropLast)
 else none

def stripAnthropicContextSuffix (model:List Char) : List Char :=
 let out:=["[1m]","[2m]","[1M]","[2M]"].foldl stripMarker (XmlElements.trim model)
 match splitBrackets out with
 | none=>out
 | some (before,inner)=>
  let normalized:=(inner.map Char.toLower).filter (· ≠ ' ')
  if normalized = "1mcontext".toList ∨ normalized = "2mcontext".toList then trimEnd before
  else out

def sameModel (model id:String) : Bool :=
 id=model||stripAnthropicContextSuffix id.toList=model.toList ||
  stripAnthropicContextSuffix model.toList=id.toList

/-- `current_account_live_catalog_model`, once the cache is pruned. -/
def resolved (model:String) (cache:LiveCatalogCache) : Option String :=
 cache.activeAccountKey.bind fun key=>(cache.accounts[key]?).bind fun account=>
  (modelsOf account.snapshots).find? (sameModel model)

/-- `cached_live_usable_models_for_account_and_identity`, once the cache is pruned. -/
def lookedUp (env:CatalogEnv) (token clientType:String) (cache:LiveCatalogCache) : Option (List String) :=
 (cache.accounts[env.accountCatalogKey token]?).bind fun account=>
  (account.snapshots[liveCatalogIdentityKey clientType]?).map fun snapshot=>snapshot.models

inductive Call where
 | observe (token:String)
 | store (token clientType:String) (generation:ℕ) (models:List String)
 | clear
 | discover
 | resolve (model:String)
 | lookup (token clientType:String)

/-- A call at a time leaves the cache so; reading prunes it. -/
def call (env:CatalogEnv) (cache:LiveCatalogCache) : ℕ×Call → LiveCatalogCache
 | (now,.observe token)=>(observe env now token cache).1
 | (now,.store token clientType generation models)=>
  storeAtGeneration env now token clientType generation models cache
 | (_,.clear)=>clear cache
 | (now,.discover)=>prune env now cache
 | (now,.resolve _)=>prune env now cache
 | (now,.lookup _ _)=>prune env now cache

def emptyCache : LiveCatalogCache := ⟨none,0,∅,∅⟩

def run (env:CatalogEnv) (history:List (ℕ×Call)) : LiveCatalogCache :=
 history.foldl (call env) emptyCache

end CursorProxy.LiveCatalogs
