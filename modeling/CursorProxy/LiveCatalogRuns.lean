import CursorProxy.LiveCatalogs

namespace CursorProxy.LiveCatalogRuns
open LiveCatalogs

section tables
variable {α:Type}

theorem get_insert (table:Table α) (key other:String) (value:α) :
 (table.insert key value)[other]?=if key=other then some value else table[other]? := by
 rw [Std.TreeMap.getElem?_insert]
 simp only [Std.LawfulEqCmp.compare_eq_iff_eq]

theorem get_erase (table:Table α) (key other:String) :
 (table.erase key)[other]?=if key=other then none else table[other]? := by
 rw [Std.TreeMap.getElem?_erase]
 simp only [Std.LawfulEqCmp.compare_eq_iff_eq]

theorem mem_of_get {table:Table α} {key:String} {value:α} (h:table[key]?=some value) : key∈table:=by
 rw [Std.TreeMap.mem_iff_isSome_getElem?,h]
 rfl

theorem get_of_mem {table:Table α} {key:String} (h:key∈table) : ∃ value,table[key]?=some value :=
 Option.isSome_iff_exists.mp (Std.TreeMap.mem_iff_isSome_getElem?.mp h)

def eraseAll (table:Table α) (keys:List String) : Table α :=
 keys.foldl (fun table key=>table.erase key) table

theorem get_eraseAll (keys:List String) : ∀ (table:Table α) (key:String),
 (eraseAll table keys)[key]?=if key∈keys then none else table[key]? := by
 induction keys with
 | nil=>exact fun table key=>(if_neg List.not_mem_nil).symm
 | cons first keys ih=>
  intro table key
  change (eraseAll (table.erase first) keys)[key]?=_
  rw [ih,get_erase]
  by_cases hfirst:first=key
  · rw [if_pos hfirst,ite_self,if_pos (List.mem_cons.mpr (Or.inl hfirst.symm))]
  · rw [if_neg hfirst]
    have hiff:key∈first::keys ↔ key∈keys :=
     ⟨fun hmem=>(List.mem_cons.mp hmem).resolve_left (Ne.symm hfirst),
      List.mem_cons_of_mem first⟩
    simp only [hiff]

theorem size_eraseAll (keys:List String) : ∀ table:Table α,keys.Nodup →
 (∀ key∈keys,key∈table) → (eraseAll table keys).size=table.size-keys.length:=by
 induction keys with
 | nil=>exact fun table _ _=>rfl
 | cons first keys ih=>
  intro table hnodup hmem
  obtain ⟨hfirst,hrest⟩:=List.nodup_cons.mp hnodup
  change (eraseAll (table.erase first) keys).size=_
  have hcontains:table.contains first=true:=hmem first List.mem_cons_self
  rw [ih (table.erase first) hrest ?_,Std.TreeMap.size_erase,if_pos hcontains,
   List.length_cons]
  · omega
  · intro key hkey
    have hne:first≠key:=fun hsame=>hfirst (hsame ▸ hkey)
    obtain ⟨value,hvalue⟩:=get_of_mem (hmem key (List.mem_cons_of_mem first hkey))
    exact mem_of_get ((get_erase table first key).trans ((if_neg hne).trans hvalue))

theorem length_filter_ne (table:Table α) {key:String} (hmem:key∈table) :
 (table.toList.filter fun entry=>some key≠some entry.1).length=table.size-1:=by
 have hsame:Std.TreeMap.Equiv (table.filter fun other _=>some key≠some other)
  (table.erase key):=by
  refine Std.TreeMap.Equiv.of_forall_constGet?_eq fun other=>?_
  rw [Std.TreeMap.getElem?_filter',get_erase]
  by_cases hother:key=other
  · rw [if_pos hother]
    cases table[other]? with
    | none=>rfl
    | some value=>simp [Option.filter,hother]
  · rw [if_neg hother]
    cases table[other]? with
    | none=>rfl
    | some value=>simp [Option.filter,hother]
 have hlist:(table.filter fun other _=>some key≠some other).toList =
  table.toList.filter fun entry=>some key≠some entry.1 := Std.TreeMap.toList_filter
 have hcontains:table.contains key=true:=hmem
 rw [← hlist,Std.TreeMap.length_toList,hsame.size_eq,Std.TreeMap.size_erase,if_pos hcontains]

end tables

section pruning
variable {env:CatalogEnv} {now:ℕ} {cache:LiveCatalogCache} {key:String}
variable {account account':AccountLiveCatalog}

variable {active:Option String}

theorem evicted_mem {accounts:Table AccountLiveCatalog} (h:key∈evicted env active accounts)
 : key∈accounts ∧ active≠some key:=by
 unfold evicted at h
 obtain ⟨entry,htaken,rfl⟩:=List.mem_map.mp h
 have hcandidate:=(env.sort_perm _).subset (List.mem_of_mem_take htaken)
 obtain ⟨⟨other,account⟩,hentry,rfl⟩:=List.mem_map.mp hcandidate
 obtain ⟨hmem,hactive⟩:=List.mem_filter.mp hentry
 exact ⟨mem_of_get (Std.TreeMap.mem_toList_iff_getElem?_eq_some.mp hmem),of_decide_eq_true hactive⟩

theorem evicted_nodup {accounts:Table AccountLiveCatalog} : (evicted env active accounts).Nodup:=by
 have hkeys:(accounts.toList.map Prod.fst).Nodup:=by
  rw [Std.TreeMap.map_fst_toList_eq_keys]
  exact Std.TreeMap.nodup_keys
 have hcandidates:(((accounts.toList.filter fun entry=>active≠some entry.1).map
  fun entry=>(entry.1,entry.2.lastObservedAt)).map Prod.fst).Nodup:=by
  rw [List.map_map]
  exact hkeys.sublist (List.Sublist.map Prod.fst List.filter_sublist)
 have hsorted:=((env.sort_perm _).map Prod.fst).nodup_iff.mpr hcandidates
 exact hsorted.sublist (List.Sublist.map Prod.fst (List.take_sublist _ _))

theorem prune_accounts : (prune env now cache).accounts =
 if (cache.accounts.filterMap (retainAccount now cache.activeAccountKey)).size ≤
  liveCatalogMaxAccounts then
  cache.accounts.filterMap (retainAccount now cache.activeAccountKey)
 else eraseAll (cache.accounts.filterMap (retainAccount now cache.activeAccountKey))
  (evicted env cache.activeAccountKey (cache.accounts.filterMap (retainAccount now cache.activeAccountKey))) := rfl

theorem retainAccount_some (h:retainAccount now active key account=some account') :
 account'={ account with snapshots := dropExpired now account.snapshots }:=by
 unfold retainAccount at h
 dsimp only at h
 split_ifs at h
 exact (Option.some.inj h).symm

theorem prune_account (h:(prune env now cache).accounts[key]?=some account') :
 ∃ account,cache.accounts[key]?=some account ∧
  account'={ account with snapshots := dropExpired now account.snapshots }:=by
 have hretained:(cache.accounts.filterMap (retainAccount now cache.activeAccountKey))[key]?=some account':=by
  rw [prune_accounts] at h
  split_ifs at h
  · exact h
  · rw [get_eraseAll] at h
    split_ifs at h
    exact h
 rw [Std.TreeMap.getElem?_filterMap'] at hretained
 obtain ⟨account,haccount,hkept⟩:=Option.bind_eq_some_iff.mp hretained
 exact ⟨account,haccount,retainAccount_some hkept⟩

theorem prune_active (hactive:cache.activeAccountKey=some key)
 (h:cache.accounts[key]?=some account) : (prune env now cache).accounts[key]? =
  some { account with snapshots := dropExpired now account.snapshots }:=by
 have hretained:(cache.accounts.filterMap
  (retainAccount now cache.activeAccountKey))[key]? =
   some { account with snapshots := dropExpired now account.snapshots }:=by
  rw [Std.TreeMap.getElem?_filterMap',h]
  exact if_pos (Or.inr hactive)
 rw [prune_accounts]
 split_ifs
 · exact hretained
 · rw [get_eraseAll,if_neg fun hevicted=>(evicted_mem hevicted).2 hactive]
   exact hretained

theorem prune_size (hactive:cache.activeAccountKey=some key) (h:cache.accounts[key]?=some account) :
 (prune env now cache).accounts.size ≤ liveCatalogMaxAccounts:=by
 rw [prune_accounts]
 split_ifs with hsize
 · exact hsize
 generalize hretained : cache.accounts.filterMap (retainAccount now cache.activeAccountKey) = retained at hsize ⊢
 have hmem:key∈retained:=by
  refine @mem_of_get _ _ _ { account with snapshots := dropExpired now account.snapshots } ?_
  rw [← hretained,Std.TreeMap.getElem?_filterMap',h]
  exact if_pos (Or.inr hactive)
 have hlength:(evicted env cache.activeAccountKey retained).length = retained.size-liveCatalogMaxAccounts:=by
  have hcandidates:=length_filter_ne retained hmem
  unfold evicted
  rw [hactive]
  dsimp only
  rw [List.length_map,List.length_take,(env.sort_perm _).length_eq,List.length_map,hcandidates]
  unfold liveCatalogMaxAccounts
  omega
 rw [size_eraseAll _ retained evicted_nodup fun other hother=>(evicted_mem hother).1,hlength]
 omega

end pruning

structure Quiet (cache cache':LiveCatalogCache) : Prop where
 generation : cache'.generation=cache.generation
 active : cache'.activeAccountKey=cache.activeAccountKey
 account : ∀ (key:String) (account':AccountLiveCatalog),cache'.accounts[key]?=some account' →
  ∃ account,cache.accounts[key]?=some account ∧ account'.generation=account.generation
 activeAccount : ∀ (key:String) (account:AccountLiveCatalog),cache.activeAccountKey=some key →
  cache.accounts[key]?=some account →
   ∃ account',cache'.accounts[key]?=some account' ∧ account'.generation=account.generation

section calls
variable {env:CatalogEnv} {now:ℕ} {cache cache':LiveCatalogCache} {key:String}

theorem Quiet.trans {cache'':LiveCatalogCache} (h:Quiet cache cache')
 (h':Quiet cache' cache'') : Quiet cache cache'':=by
 refine ⟨h'.generation.trans h.generation,h'.active.trans h.active,?_,?_⟩
 · intro key account'' haccount''
   obtain ⟨account',haccount',hsame'⟩:=h'.account key account'' haccount''
   obtain ⟨account,haccount,hsame⟩:=h.account key account' haccount'
   exact ⟨account,haccount,hsame'.trans hsame⟩
 · intro key account hactive haccount
   obtain ⟨account',haccount',hsame⟩:=h.activeAccount key account hactive haccount
   obtain ⟨account'',haccount'',hsame'⟩ :=
    h'.activeAccount key account' (h.active.trans hactive) haccount'
   exact ⟨account'',haccount'',hsame'.trans hsame⟩

theorem prune_quiet (env:CatalogEnv) (now:ℕ) (cache:LiveCatalogCache) : Quiet cache (prune env now cache):=by
 refine ⟨rfl,rfl,?_,?_⟩
 · intro key account' h
   obtain ⟨account,haccount,rfl⟩:=prune_account h
   exact ⟨account,haccount,rfl⟩
 · intro key account hactive h
   exact ⟨_,prune_active hactive h,rfl⟩

theorem storeAtGeneration_cases (env:CatalogEnv) (now:ℕ) (token clientType:String)
 (generation:ℕ) (models:List String) (cache:LiveCatalogCache) :
 (storeAtGeneration env now token clientType generation models cache=prune env now cache ∧
  ∀ account,(prune env now cache).accounts[env.accountCatalogKey token]?=some account →
   account.generation≠generation) ∨
 ∃ account,(prune env now cache).accounts[env.accountCatalogKey token]?=some account ∧
  account.generation=generation ∧
  storeAtGeneration env now token clientType generation models cache =
   { prune env now cache with
     accounts := (prune env now cache).accounts.insert (env.accountCatalogKey token)
      { account with
        lastObservedAt := now
        snapshots := account.snapshots.insert (liveCatalogIdentityKey clientType) ⟨now,models⟩ } }:=by
 unfold storeAtGeneration
 dsimp only
 cases haccount:(prune env now cache).accounts[env.accountCatalogKey token]? with
 | none=>exact Or.inl ⟨rfl,nofun⟩
 | some account=>
  dsimp only
  by_cases hgeneration:account.generation=generation
  · rw [if_neg (not_not_intro hgeneration)]
    exact Or.inr ⟨account,rfl,hgeneration,rfl⟩
  · rw [if_pos hgeneration]
    refine Or.inl ⟨rfl,fun other hother=>?_⟩
    rw [← Option.some.inj hother]
    exact hgeneration

theorem storeAtGeneration_quiet (token clientType:String) (generation:ℕ) (models:List String) :
 Quiet cache (storeAtGeneration env now token clientType generation models cache):=by
 refine (prune_quiet env now cache).trans ?_
 rcases storeAtGeneration_cases env now token clientType generation models cache with
  ⟨hstore,-⟩ | ⟨account,haccount,-,hstore⟩
 · rw [hstore]
   exact ⟨rfl,rfl,fun key account h=>⟨account,h,rfl⟩,fun key account _ h=>
    ⟨account,h,rfl⟩⟩
 · rw [hstore]
   refine ⟨rfl,rfl,fun key account' h=>?_,fun key account' _ h=>?_⟩
   · dsimp only at h
     rw [get_insert] at h
     split_ifs at h with hkey
     · obtain rfl:=Option.some.inj h
       exact ⟨account,hkey ▸ haccount,rfl⟩
     · exact ⟨account',h,rfl⟩
   · dsimp only
     rw [get_insert]
     split_ifs with hkey
     · rw [← hkey,haccount] at h
       obtain rfl:=Option.some.inj h
       exact ⟨_,rfl,rfl⟩
     · exact ⟨account',h,rfl⟩

/-- The observed account is active, under a new generation if it was not. -/
structure Observed (env:CatalogEnv) (now:ℕ) (token:String)
 (cache cache':LiveCatalogCache) : Prop where
 active : cache'.activeAccountKey=some (env.accountCatalogKey token)
 generation : cache'.generation =
  if cache.activeAccountKey=some (env.accountCatalogKey token) then cache.generation
  else cache.generation+1
 observed : ∃ account',cache'.accounts[env.accountCatalogKey token]?=some account' ∧
  account'.generation=cache'.generation
 others : ∀ (key:String) (account':AccountLiveCatalog),key≠env.accountCatalogKey token →
  cache'.accounts[key]?=some account' →
   ∃ account,cache.accounts[key]?=some account ∧ account'.generation=account.generation

def ActiveLatest (cache:LiveCatalogCache) : Prop :=
 ∀ key:String,cache.activeAccountKey=some key → ∃ account,cache.accounts[key]?=some account ∧
  account.generation=cache.generation

/-- The cache within `observe`, before it is pruned again. -/
def observing (env:CatalogEnv) (now:ℕ) (token:String) (cache:LiveCatalogCache) : LiveCatalogCache :=
 let key:=env.accountCatalogKey token
 let cache:=prune env now cache
 let switched:=cache.activeAccountKey≠some key
 let generation:=if switched then cache.generation+1 else cache.generation
 let account:=(cache.accounts[key]?).getD ⟨generation,now,∅⟩
 { cache with
   generation := generation
   activeAccountKey := some key
   accounts := cache.accounts.insert key { account with
    generation := if switched then generation else account.generation
    lastObservedAt := now } }

theorem observe_fst (env:CatalogEnv) (now:ℕ) (token:String) (cache:LiveCatalogCache) :
 (observe env now token cache).1=prune env now (observing env now token cache) := rfl

theorem observing_observed (token:String) (hlatest:ActiveLatest cache) :
 Observed env now token cache (observing env now token cache) ∧
  (observe env now token cache).2=(observing env now token cache).generation:=by
 have hquiet:=prune_quiet env now cache
 have hgeneration:(observing env now token cache).generation =
  if cache.activeAccountKey=some (env.accountCatalogKey token) then cache.generation
  else cache.generation+1:=by
  change (if cache.activeAccountKey≠some (env.accountCatalogKey token)
   then cache.generation+1 else cache.generation)=_
  by_cases hactive:cache.activeAccountKey=some (env.accountCatalogKey token)
  · rw [if_neg (not_not_intro hactive),if_pos hactive]
  · rw [if_pos hactive,if_neg hactive]
 have hobserved:∃ account',
  (observing env now token cache).accounts[env.accountCatalogKey token]?=some account' ∧
   account'.generation=(observe env now token cache).2 :=
  ⟨_,(get_insert _ _ _ _).trans (if_pos rfl),rfl⟩
 have hreturned:(observe env now token cache).2 = (observing env now token cache).generation:=by
  rw [hgeneration]
  change (if cache.activeAccountKey≠some (env.accountCatalogKey token) then
   (if cache.activeAccountKey≠some (env.accountCatalogKey token) then cache.generation+1
    else cache.generation)
   else (((prune env now cache).accounts[env.accountCatalogKey token]?).getD ⟨_,now,∅⟩).generation)=_
  by_cases hactive:cache.activeAccountKey=some (env.accountCatalogKey token)
  · obtain ⟨account,haccount,hsame⟩:=hlatest _ hactive
    obtain ⟨account',haccount',hsame'⟩:=hquiet.activeAccount _ account hactive haccount
    rw [if_neg (not_not_intro hactive),if_pos hactive,haccount']
    exact hsame'.trans hsame
  · rw [if_pos hactive,if_pos hactive,if_neg hactive]
 refine ⟨⟨rfl,hgeneration,?_,?_⟩,hreturned⟩
 · obtain ⟨account',haccount',hsame⟩:=hobserved
   exact ⟨account',haccount',hsame.trans hreturned⟩
 · intro key account' hne h
   have hsame:(observing env now token cache).accounts[key]? = (prune env now cache).accounts[key]? :=
    (get_insert _ _ _ _).trans (if_neg (Ne.symm hne))
   exact hquiet.account key account' (hsame.symm.trans h)

theorem observe_observed (token:String) (hlatest:ActiveLatest cache) :
 Observed env now token cache (observe env now token cache).1 ∧
  (observe env now token cache).2=(observe env now token cache).1.generation:=by
 obtain ⟨hobserving,hreturned⟩:=@observing_observed env now cache token hlatest
 have hquiet:=prune_quiet env now (observing env now token cache)
 rw [observe_fst]
 refine ⟨⟨hobserving.active,hobserving.generation,?_,?_⟩,hreturned⟩
 · obtain ⟨account,haccount,hsame⟩:=hobserving.observed
   obtain ⟨account',haccount',hsame'⟩ :=
    hquiet.activeAccount _ account hobserving.active haccount
   exact ⟨account',haccount',hsame'.trans hsame⟩
 · intro key account'' hne h
   obtain ⟨account',haccount',hsame'⟩:=hquiet.account key account'' h
   obtain ⟨account,haccount,hsame⟩:=hobserving.others key account' hne haccount'
   exact ⟨account,haccount,hsame'.trans hsame⟩

theorem observe_size (token:String) : (observe env now token cache).1.accounts.size ≤ liveCatalogMaxAccounts:=by
 rw [observe_fst]
 exact prune_size rfl ((get_insert _ _ _ _).trans (if_pos rfl))

theorem clear_generation_le (cache:LiveCatalogCache) : cache.generation ≤ (clear cache).generation:=by
 unfold clear
 dsimp only
 split_ifs <;> omega

/-- The snapshots after a call were there before it. -/
def Kept (cache cache':LiveCatalogCache) : Prop :=
 ∀ (key:String) (account':AccountLiveCatalog) (identity:String)
  (snapshot:LiveCatalogSnapshot),cache'.accounts[key]?=some account' →
   account'.snapshots[identity]?=some snapshot →
    ∃ account,cache.accounts[key]?=some account ∧ account.snapshots[identity]?=some snapshot

theorem get_dropExpired {snapshots:Table LiveCatalogSnapshot} {identity:String}
 {snapshot:LiveCatalogSnapshot} (h:(dropExpired now snapshots)[identity]?=some snapshot) :
 snapshots[identity]?=some snapshot ∧ now-snapshot.fetchedAt<liveCatalogTtl:=by
 unfold dropExpired at h
 rw [Std.TreeMap.getElem?_filter'] at h
 obtain ⟨hget,hfresh⟩:=Option.filter_eq_some_iff.mp h
 exact ⟨hget,of_decide_eq_true hfresh⟩

theorem prune_kept (env:CatalogEnv) (now:ℕ) (cache:LiveCatalogCache) : Kept cache (prune env now cache):=by
 intro key account' identity snapshot h hsnapshot
 obtain ⟨account,haccount,rfl⟩:=prune_account h
 exact ⟨account,haccount,(get_dropExpired hsnapshot).1⟩

theorem Kept.trans {cache'':LiveCatalogCache} (h:Kept cache cache') (h':Kept cache' cache'') : Kept cache cache'':=by
 intro key account'' identity snapshot haccount'' hsnapshot''
 obtain ⟨account',haccount',hsnapshot'⟩ :=
  h' key account'' identity snapshot haccount'' hsnapshot''
 exact h key account' identity snapshot haccount' hsnapshot'

theorem observing_kept (token:String) : Kept cache (observing env now token cache):=by
 refine (prune_kept env now cache).trans ?_
 intro key account' identity snapshot h hsnapshot
 change ((prune env now cache).accounts.insert (env.accountCatalogKey token) _)[key]?=_ at h
 rw [get_insert] at h
 by_cases hkey:env.accountCatalogKey token=key
 · rw [if_pos hkey] at h
   obtain rfl:=Option.some.inj h
   subst hkey
   dsimp only at hsnapshot
   cases haccount:(prune env now cache).accounts[env.accountCatalogKey token]? with
   | none=>
    rw [haccount] at hsnapshot
    exact (nomatch Std.TreeMap.getElem?_emptyc.symm.trans hsnapshot)
   | some account=>
    rw [haccount] at hsnapshot
    exact ⟨account,rfl,hsnapshot⟩
 · rw [if_neg hkey] at h
   exact ⟨account',h,hsnapshot⟩

theorem observe_kept (token:String) : Kept cache (observe env now token cache).1:=by
 rw [observe_fst]
 exact (observing_kept token).trans (prune_kept env now _)

end calls

section runs
variable {env:CatalogEnv} {history:List (ℕ×Call)} {key identity:String}
variable {snapshot:LiveCatalogSnapshot}

theorem run_append (history:List (ℕ×Call)) (next:ℕ×Call) : run env (history++[next])=call env (run env history) next :=
 List.foldl_append

/-- Stored for the account and the identity, at the generation that the account had; the account
has been kept since. -/
def Stored (env:CatalogEnv) (history:List (ℕ×Call)) (key identity:String) (snapshot:LiveCatalogSnapshot) : Prop :=
 ∃ before token clientType generation after,
  history=before ++ (snapshot.fetchedAt,.store token clientType generation snapshot.models)::after ∧
  env.accountCatalogKey token=key ∧ liveCatalogIdentityKey clientType=identity ∧
  (∃ account,(run env before).accounts[key]?=some account ∧ account.generation=generation) ∧
  ∀ middle rest,after=middle++rest → key∈(run env (before ++
   (snapshot.fetchedAt,.store token clientType generation snapshot.models) :: middle)).accounts

theorem Stored.append (h:Stored env history key identity snapshot) {next:ℕ×Call}
 (hmem:key∈(run env (history++[next])).accounts) : Stored env (history++[next]) key identity snapshot:=by
 obtain ⟨before,token,clientType,generation,after,rfl,hkey,hidentity,hgeneration,hkept⟩ := h
 refine ⟨before,token,clientType,generation,after++[next],?_,hkey,hidentity,hgeneration,?_⟩
 · rw [List.append_assoc,List.cons_append]
 · intro middle rest hsplit
   rcases List.eq_nil_or_concat rest with rfl | ⟨rest,last,rfl⟩
   · rw [List.append_nil] at hsplit
     rw [← hsplit]
     rw [List.append_assoc,List.cons_append] at hmem
     exact hmem
   · rw [List.concat_eq_append,← List.append_assoc] at hsplit
     exact hkept middle rest (List.append_inj' hsplit rfl).1

structure Sound (env:CatalogEnv) (history:List (ℕ×Call)) (cache:LiveCatalogCache) :
 Prop where
 bounded : ∀ (key:String) (account:AccountLiveCatalog),
  cache.accounts[key]?=some account → account.generation ≤ cache.generation
 latest : ActiveLatest cache
 legacy : ∀ identity:String,cache.legacySnapshots[identity]?=none
 stored : ∀ (key:String) (account:AccountLiveCatalog) (identity:String)
  (snapshot:LiveCatalogSnapshot),cache.accounts[key]?=some account →
   account.snapshots[identity]?=some snapshot → Stored env history key identity snapshot

variable {cache:LiveCatalogCache}

theorem Quiet.bounded {cache':LiveCatalogCache} (h:Quiet cache cache')
 (hbounded:∀ (key:String) (account:AccountLiveCatalog),cache.accounts[key]?=some account → account.generation ≤ cache.generation)
 (key:String) (account':AccountLiveCatalog) (haccount':cache'.accounts[key]?=some account') :
 account'.generation ≤ cache'.generation:=by
 obtain ⟨account,haccount,hsame⟩:=h.account key account' haccount'
 rw [hsame,h.generation]
 exact hbounded key account haccount

theorem Quiet.latest {cache':LiveCatalogCache} (h:Quiet cache cache')
 (hlatest:ActiveLatest cache) : ActiveLatest cache':=by
 intro key hactive
 rw [h.active] at hactive
 obtain ⟨account,haccount,hsame⟩:=hlatest key hactive
 obtain ⟨account',haccount',hsame'⟩:=h.activeAccount key account hactive haccount
 exact ⟨account',haccount',(hsame'.trans hsame).trans h.generation.symm⟩

variable {now:ℕ}

theorem dropExpired_none {snapshots:Table LiveCatalogSnapshot}
 (h:∀ identity:String,snapshots[identity]?=none) (identity:String) :
 (dropExpired now snapshots)[identity]?=none:=by
 unfold dropExpired
 rw [Std.TreeMap.getElem?_filter',h identity]
 rfl

theorem Sound.prune {now:ℕ} {cache:LiveCatalogCache} (h:Sound env history cache) :
 Sound env history (prune env now cache):=by
 refine ⟨(prune_quiet env now cache).bounded h.bounded,(prune_quiet env now cache).latest h.latest,
  dropExpired_none h.legacy,?_⟩
 intro key account' identity snapshot haccount' hsnapshot'
 obtain ⟨account,haccount,hsnapshot⟩ :=
  prune_kept env now cache key account' identity snapshot haccount' hsnapshot'
 exact h.stored key account identity snapshot haccount hsnapshot

theorem Sound.call (h:Sound env history (run env history)) (next:ℕ×Call) :
 Sound env (history++[next]) (run env (history++[next])):=by
 have hkept:Kept (run env history) (run env (history++[next])) →
  ∀ (key:String) (account:AccountLiveCatalog) (identity:String) (snapshot:LiveCatalogSnapshot),
   (run env (history++[next])).accounts[key]?=some account →
    account.snapshots[identity]?=some snapshot → Stored env (history++[next]) key identity snapshot:=by
  intro hkept key account' identity snapshot haccount' hsnapshot'
  obtain ⟨account,haccount,hsnapshot⟩ :=
   hkept key account' identity snapshot haccount' hsnapshot'
  exact (h.stored key account identity snapshot haccount hsnapshot).append (mem_of_get haccount')
 have hread:∀ now,run env (history++[next])=LiveCatalogs.prune env now (run env history) →
  Sound env (history++[next]) (run env (history++[next])):=by
  intro now hprune
  obtain ⟨hbounded,hlatest,hlegacy,-⟩:=@Sound.prune env history now _ h
  rw [← hprune] at hbounded hlatest hlegacy
  exact ⟨hbounded,hlatest,hlegacy,hkept (hprune ▸ prune_kept env now _)⟩
 obtain ⟨now,next⟩:=next
 have hcall:=@run_append env history (now,next)
 cases next with
 | observe token=>
  have hcache:run env (history++[(now,.observe token)]) =
   (LiveCatalogs.observe env now token (run env history)).1 := hcall
  obtain ⟨hobserved,-⟩:=@observe_observed env now (run env history) token h.latest
  rw [← hcache] at hobserved
  refine ⟨?_,?_,?_,hkept (hcache ▸ observe_kept token)⟩
  · intro key account' haccount'
    by_cases hkey:key=env.accountCatalogKey token
    · subst hkey
      obtain ⟨account,haccount,hsame⟩:=hobserved.observed
      obtain rfl:=Option.some.inj (haccount'.symm.trans haccount)
      exact hsame.le
    · obtain ⟨account,haccount,hsame⟩:=hobserved.others key account' hkey haccount'
      have:=h.bounded key account haccount
      rw [hsame,hobserved.generation]
      split_ifs <;> omega
  · intro key hactive
    obtain rfl:=Option.some.inj (hobserved.active.symm.trans hactive)
    exact hobserved.observed
  · rw [hcache]
    exact dropExpired_none (dropExpired_none h.legacy)
 | store token clientType generation models=>
  have hcache:run env (history++[(now,.store token clientType generation models)]) =
   storeAtGeneration env now token clientType generation models (run env history) := hcall
  have hquiet:=@storeAtGeneration_quiet env now (run env history) token clientType generation models
  rcases storeAtGeneration_cases env now token clientType generation models (run env history) with
   ⟨hstore,-⟩ | ⟨account,haccount,hsame,hstore⟩
  · exact hread now (hcache.trans hstore)
  rw [← hcache] at hquiet
  refine ⟨hquiet.bounded h.bounded,hquiet.latest h.latest,?_,?_⟩
  · rw [hcache,hstore]
    exact dropExpired_none h.legacy
  · intro key account' identity snapshot haccount' hsnapshot'
    have hmem:=mem_of_get haccount'
    have holds:∀ old,(LiveCatalogs.prune env now (run env history)).accounts[key]?=some old →
     old.snapshots[identity]?=some snapshot → Stored env
      (history++[(now,.store token clientType generation models)]) key identity snapshot:=by
     intro old hold hsnapshot
     exact ((@Sound.prune env history now _ h).stored key old identity snapshot hold hsnapshot).append hmem
    rw [hcache,hstore] at haccount'
    dsimp only at haccount'
    rw [get_insert] at haccount'
    split_ifs at haccount' with hkey
    · obtain rfl:=Option.some.inj haccount'
      dsimp only at hsnapshot'
      rw [get_insert] at hsnapshot'
      subst hkey
      split_ifs at hsnapshot' with hidentity
      · obtain rfl:=Option.some.inj hsnapshot'
        obtain ⟨old,hold,hgeneration⟩ :=
         (prune_quiet env now (run env history)).account _ account haccount
        refine ⟨history,token,clientType,generation,[],rfl,rfl,hidentity,⟨old,hold,hgeneration.symm.trans hsame⟩,?_⟩
        intro middle rest hsplit
        obtain ⟨rfl,-⟩:=List.append_eq_nil_iff.mp hsplit.symm
        exact hmem
      · exact holds account haccount hsnapshot'
    · exact holds account' haccount' hsnapshot'
 | clear=>
  have hcache:run env (history++[(now,.clear)])=clear (run env history):=hcall
  have hnone:∀ key:String,(run env (history++[(now,.clear)])).accounts[key]?=none:=by
   rw [hcache]
   exact fun key=>Std.TreeMap.getElem?_emptyc
  refine ⟨?_,?_,?_,?_⟩
  · intro key account haccount
    exact (nomatch (hnone key).symm.trans haccount)
  · intro key hactive
    rw [hcache] at hactive
    exact (nomatch hactive)
  · rw [hcache]
    exact fun identity=>Std.TreeMap.getElem?_emptyc
  · intro key account identity snapshot haccount
    exact (nomatch (hnone key).symm.trans haccount)
 | discover=>exact hread now hcall
 | resolve model=>exact hread now hcall
 | lookup token clientType=>exact hread now hcall

theorem sound_run (env:CatalogEnv) (history:List (ℕ×Call)) : Sound env history (run env history):=by
 induction history using List.reverseRecOn with
 | nil=>
  have hnone:∀ key:String,(run env []).accounts[key]?=none :=
   fun key=>Std.TreeMap.getElem?_emptyc
  refine ⟨?_,nofun,fun identity=>Std.TreeMap.getElem?_emptyc,?_⟩
  · intro key account haccount
    exact (nomatch (hnone key).symm.trans haccount)
  · intro key account identity snapshot haccount
    exact (nomatch (hnone key).symm.trans haccount)
 | append_singleton history next ih=>exact ih.call next

/-- No later call gives the account this generation again. -/
def Outdated (cache:LiveCatalogCache) (key:String) (generation:ℕ) : Prop :=
 generation ≤ cache.generation ∧ ∀ account,cache.accounts[key]?=some account → account.generation≠generation

theorem call_cases (history:List (ℕ×Call)) (next:ℕ×Call) : Quiet (run env history) (run env (history++[next])) ∨
 (∃ now token,next=(now,.observe token) ∧ Observed env now token (run env history) (run env (history++[next]))) ∨
 ∃ now,next=(now,.clear) ∧ run env (history++[next])=clear (run env history):=by
 obtain ⟨now,next⟩:=next
 rw [run_append]
 cases next with
 | observe token=>
  exact Or.inr (Or.inl ⟨now,token,rfl,(observe_observed token (sound_run env history).latest).1⟩)
 | store token clientType generation models=>
  exact Or.inl (storeAtGeneration_quiet token clientType generation models)
 | clear=>exact Or.inr (Or.inr ⟨now,rfl,rfl⟩)
 | discover=>exact Or.inl (prune_quiet env now _)
 | resolve model=>exact Or.inl (prune_quiet env now _)
 | lookup token clientType=>exact Or.inl (prune_quiet env now _)

theorem cleared_account {history:List (ℕ×Call)} {next:ℕ×Call}
 (h:run env (history++[next])=clear (run env history)) (key:String) :
 (run env (history++[next])).accounts[key]?=none:=by
 rw [h]
 exact Std.TreeMap.getElem?_emptyc

theorem call_generation_le (history:List (ℕ×Call)) (next:ℕ×Call) :
 (run env history).generation ≤ (run env (history++[next])).generation:=by
 rcases @call_cases env history next with hquiet | ⟨now,token,-,hobserved⟩ | ⟨now,-,hclear⟩
 · exact hquiet.generation.ge
 · rw [hobserved.generation]
   split_ifs <;> omega
 · rw [hclear]
   exact clear_generation_le _

variable {generation:ℕ}

theorem Outdated.call (h:Outdated (run env history) key generation) (next:ℕ×Call)
 : Outdated (run env (history++[next])) key generation:=by
 refine ⟨h.1.trans (call_generation_le history next),fun account' haccount'=>?_⟩
 rcases @call_cases env history next with hquiet | ⟨now,token,-,hobserved⟩ | ⟨now,-,hclear⟩
 · obtain ⟨account,haccount,hsame⟩:=hquiet.account key account' haccount'
   rw [hsame]
   exact h.2 account haccount
 · by_cases hkey:key=env.accountCatalogKey token
   · subst hkey
     obtain ⟨account,haccount,hsame⟩:=hobserved.observed
     obtain rfl:=Option.some.inj (haccount'.symm.trans haccount)
     rw [hsame,hobserved.generation]
     by_cases hactive:(run env history).activeAccountKey=some (env.accountCatalogKey token)
     -- The active account already had the latest generation, so the fetch is of an older one.
     · obtain ⟨old,hold,hlatest⟩:=(sound_run env history).latest _ hactive
       rw [if_pos hactive,← hlatest]
       exact h.2 old hold
     · rw [if_neg hactive]
       have:=h.1
       omega
   · obtain ⟨account,haccount,hsame⟩:=hobserved.others key account' hkey haccount'
     rw [hsame]
     exact h.2 account haccount
 · exact (nomatch (cleared_account hclear key).symm.trans haccount')

theorem Outdated.run (h:Outdated (run env history) key generation) (more:List (ℕ×Call))
 : Outdated (LiveCatalogs.run env (history++more)) key generation:=by
 induction more using List.reverseRecOn with
 | nil=>
  rw [List.append_nil]
  exact h
 | append_singleton more next ih=>
  rw [← List.append_assoc]
  exact ih.call next

theorem run_generation_le (history more:List (ℕ×Call)) :
 (run env history).generation ≤ (run env (history++more)).generation:=by
 induction more using List.reverseRecOn with
 | nil=>rw [List.append_nil]
 | append_singleton more next ih=>
  rw [← List.append_assoc]
  exact ih.trans (call_generation_le _ next)

theorem active_later (h:(run env history).activeAccountKey≠some key)
 (more:List (ℕ×Call)) (hactive:(run env (history++more)).activeAccountKey=some key) :
 (run env history).generation<(run env (history++more)).generation:=by
 induction more using List.reverseRecOn with
 | nil=>
  rw [List.append_nil] at hactive
  exact absurd hactive h
 | append_singleton more next ih=>
  have hle:=@run_generation_le env history more
  rw [← List.append_assoc] at hactive ⊢
  rcases @call_cases env (history++more) next with
   hquiet | ⟨now,token,-,hobserved⟩ | ⟨now,-,hclear⟩
  · rw [hquiet.generation]
    exact ih (hquiet.active.symm.trans hactive)
  · rw [hobserved.generation]
    obtain rfl:=Option.some.inj (hobserved.active.symm.trans hactive)
    split_ifs with hwas
    · exact ih hwas
    · omega
  · rw [hclear] at hactive
    exact (nomatch hactive)

/-- After the calls of `start` everything is cleared, the account is evicted, or another account
is observed and then this one again. -/
def Overtaken (env:CatalogEnv) (start:List (ℕ×Call)) (key:String) (middle:List (ℕ×Call)) : Prop :=
 (∃ first now rest,middle=first++(now,.clear)::rest) ∨
 (∃ first rest,middle=first++rest ∧ key ∉ (run env (start++first)).accounts) ∨
 ∃ first now other second now' token rest,
  middle=first++(now,.observe other)::(second++(now',.observe token)::rest) ∧
   env.accountCatalogKey other≠key ∧ env.accountCatalogKey token=key

theorem outdated_of_absent (hle:generation ≤ (run env history).generation)
 (h:key ∉ (run env history).accounts) : Outdated (run env history) key generation :=
 ⟨hle,fun _ haccount=>absurd (mem_of_get haccount) h⟩

theorem observed_active (history:List (ℕ×Call)) (now:ℕ) (token:String) :
 (run env (history++[(now,.observe token)])).activeAccountKey = some (env.accountCatalogKey token):=by
 rw [run_append]
 rfl

theorem Overtaken.outdated {start middle:List (ℕ×Call)} (h:Overtaken env start key middle)
 (hle:generation ≤ (run env start).generation) : Outdated (run env (start++middle)) key generation:=by
 rcases h with ⟨first,now,rest,rfl⟩ | ⟨first,rest,rfl,habsent⟩ |
  ⟨first,now,other,second,now',token,rest,rfl,hother,hkey⟩
 · have hcleared:key ∉ (run env (start++first++[(now,.clear)])).accounts:=by
    intro hmem
    obtain ⟨account,haccount⟩:=get_of_mem hmem
    have hcall:=@run_append env (start++first) (now,.clear)
    exact (nomatch (cleared_account hcall key).symm.trans haccount)
   have hgeneration:=hle.trans (run_generation_le start (first++[(now,.clear)]))
   rw [← List.append_assoc] at hgeneration
   have houtdated:=(outdated_of_absent hgeneration hcleared).run rest
   rw [List.append_assoc,List.append_assoc] at houtdated
   exact houtdated
 · have houtdated :=
    (outdated_of_absent (hle.trans (run_generation_le start first)) habsent).run rest
   rw [List.append_assoc] at houtdated
   exact houtdated
 · obtain ⟨away,haway⟩ : ∃ away,away=start++first++[(now,.observe other)]:=⟨_,rfl⟩
   obtain ⟨back,hback⟩ : ∃ back,back=away++(second++[(now',.observe token)]):=⟨_,rfl⟩
   have hnot:(run env away).activeAccountKey≠some key:=by
    rw [haway,observed_active]
    exact fun hsame=>hother (Option.some.inj hsame)
   have hactive:(run env back).activeAccountKey=some key:=by
    rw [hback,← List.append_assoc,observed_active,hkey]
   have hlater:=active_later hnot (second++[(now',.observe token)]) (hback ▸ hactive)
   rw [← hback] at hlater
   have hbefore:generation ≤ (run env away).generation:=by
    rw [haway,List.append_assoc]
    exact hle.trans (run_generation_le start _)
   obtain ⟨account,haccount,hlatest⟩:=(sound_run env back).latest key hactive
   have houtdated:Outdated (run env back) key generation:=by
    refine ⟨(hbefore.trans_lt hlater).le,fun account' haccount'=>?_⟩
    obtain rfl:=Option.some.inj (haccount.symm.trans haccount')
    omega
   have hrest:=houtdated.run rest
   rw [hback,haway] at hrest
   simp only [List.append_assoc,List.cons_append,List.nil_append] at hrest
   exact hrest

theorem observe_generation (history:List (ℕ×Call)) (now:ℕ) (token:String) :
 (observe env now token (run env history)).2 = (run env (history++[(now,.observe token)])).generation:=by
 rw [run_append]
 exact (observe_observed token (sound_run env history).latest).2

variable {models:List String}

theorem storeAtGeneration_outdated {token clientType:String}
 (h:Outdated (run env history) (env.accountCatalogKey token) generation) :
 storeAtGeneration env now token clientType generation models (run env history) =
  prune env now (run env history):=by
 rcases storeAtGeneration_cases env now token clientType generation models (run env history) with
  ⟨hstore,-⟩ | ⟨account,haccount,hsame,-⟩
 · exact hstore
 · obtain ⟨old,hold,hgeneration⟩:=(prune_quiet env now (run env history)).account _ account haccount
   exact absurd (hgeneration.symm.trans hsame) (h.2 old hold)

/-- Every store has the generation that an earlier observation of its account returned. -/
def Begun (env:CatalogEnv) (history:List (ℕ×Call)) : Prop :=
 ∀ before now token clientType generation models after,
  history=before++(now,.store token clientType generation models)::after →
   ∃ earlier time observed middle,before=earlier++(time,.observe observed)::middle ∧
    env.accountCatalogKey observed=env.accountCatalogKey token ∧
    (observe env time observed (run env earlier)).2=generation

/-- A fetch began with an observation of the account, was not overtaken, and stored the snapshot
at the generation that the account had; the account has been kept since. -/
def Fetched (env:CatalogEnv) (history:List (ℕ×Call)) (key identity:String) (snapshot:LiveCatalogSnapshot) : Prop :=
 ∃ earlier time observed middle token clientType after,
  history=earlier++(time,.observe observed)::middle ++
   (snapshot.fetchedAt,.store token clientType
    (observe env time observed (run env earlier)).2 snapshot.models)::after ∧
  env.accountCatalogKey observed=key ∧ env.accountCatalogKey token=key ∧ liveCatalogIdentityKey clientType=identity ∧
  (∃ account,(run env (earlier++(time,.observe observed)::middle)).accounts[key]? =
   some account ∧ account.generation=(observe env time observed (run env earlier)).2) ∧
  ¬ Overtaken env (earlier++[(time,.observe observed)]) key middle ∧
  ∀ more rest,after=more++rest → key∈(run env (earlier ++
   (time,.observe observed)::middle++(snapshot.fetchedAt,.store token clientType
    (observe env time observed (run env earlier)).2 snapshot.models)::more)).accounts

theorem Stored.fetched (h:Stored env history key identity snapshot)
 (hbegun:Begun env history) : Fetched env history key identity snapshot:=by
 obtain ⟨before,token,clientType,generation,after,hhistory,hkey,hidentity,⟨account,haccount,hgeneration⟩,hkept⟩ := h
 obtain ⟨earlier,time,observed,middle,rfl,hsame,rfl⟩ :=
  hbegun before _ token clientType generation _ after hhistory
 refine ⟨earlier,time,observed,middle,token,clientType,after,hhistory,
  hsame.trans hkey,hkey,hidentity,⟨account,haccount,hgeneration⟩,?_,hkept⟩
 intro hovertaken
 have houtdated:=hovertaken.outdated (observe_generation earlier time observed).le
 rw [List.append_assoc] at houtdated
 exact houtdated.2 account haccount hgeneration

structure Apart (env:CatalogEnv) (history:List (ℕ×Call)) : Prop where
 /-- A catalogue that is looked up was fetched for the account and the identity. -/
 looked : ∀ now token clientType models,
  lookedUp env token clientType (prune env now (run env history))=some models →
   ∃ fetchedAt,now-fetchedAt<liveCatalogTtl ∧
    Fetched env history (env.accountCatalogKey token) (liveCatalogIdentityKey clientType) ⟨fetchedAt,models⟩
 /-- A fetch that was overtaken stores nothing. -/
 fenced : ∀ earlier time observed middle,history =
  earlier++(time,.observe observed)::middle →
   Overtaken env (earlier++[(time,.observe observed)]) (env.accountCatalogKey observed)
    middle → ∀ now token clientType models,
     env.accountCatalogKey token=env.accountCatalogKey observed →
      storeAtGeneration env now token clientType
       (observe env time observed (run env earlier)).2 models (run env history) = prune env now (run env history)
 /-- Models are discovered for the active account only. -/
 discovered : ∀ now models,discovered (prune env now (run env history))=some models →
  ∃ key,(run env history).activeAccountKey=some key ∧ ∀ model∈models,
   ∃ identity snapshot,model∈snapshot.models ∧ now-snapshot.fetchedAt<liveCatalogTtl ∧
    Fetched env history key identity snapshot
 resolved : ∀ now model id,resolved model (prune env now (run env history))=some id →
  ∃ key,(run env history).activeAccountKey=some key ∧
   ∃ identity snapshot,id∈snapshot.models ∧ now-snapshot.fetchedAt<liveCatalogTtl ∧
    Fetched env history key identity snapshot
 /-- Few accounts are kept, the observed one among them. -/
 bounded : ∀ earlier now token rest,history=earlier++(now,.observe token)::rest →
  (run env (earlier++[(now,.observe token)])).accounts.size ≤ liveCatalogMaxAccounts ∧
  (run env (earlier++[(now,.observe token)])).activeAccountKey = some (env.accountCatalogKey token) ∧
  env.accountCatalogKey token∈(run env (earlier++[(now,.observe token)])).accounts

theorem mem_modelsOf {snapshots:Table LiveCatalogSnapshot} {model:String}
 (h:model∈modelsOf snapshots) : ∃ (identity:String) (snapshot:LiveCatalogSnapshot),
  snapshots[identity]?=some snapshot ∧ model∈snapshot.models:=by
 obtain ⟨⟨identity,snapshot⟩,hentry,hmodel⟩:=List.mem_flatMap.mp h
 exact ⟨identity,snapshot,Std.TreeMap.mem_toList_iff_getElem?_eq_some.mp hentry,hmodel⟩

theorem pruned_stored {account:AccountLiveCatalog}
 (haccount:(prune env now (run env history)).accounts[key]?=some account)
 (hsnapshot:account.snapshots[identity]?=some snapshot) :
 now-snapshot.fetchedAt<liveCatalogTtl ∧ Stored env history key identity snapshot:=by
 obtain ⟨old,hold,rfl⟩:=prune_account haccount
 obtain ⟨hget,hfresh⟩:=get_dropExpired hsnapshot
 exact ⟨hfresh,(sound_run env history).stored key old identity snapshot hold hget⟩

theorem mem_listed {model:String} : model∈listed models ↔ model∈models:=by
 unfold listed
 rw [List.mem_mergeSort,List.mem_dedup]

theorem discovered_some (hlegacy:∀ identity:String,cache.legacySnapshots[identity]?=none)
 (h:discovered cache=some models) : ∃ key account,cache.activeAccountKey=some key ∧
  cache.accounts[key]?=some account ∧ models=listed (modelsOf account.snapshots):=by
 unfold discovered at h
 dsimp only at h
 cases hactive:cache.activeAccountKey with
 | none=>
  simp only [hactive] at h
  split_ifs at h with hempty
  refine absurd (List.isEmpty_iff.mpr (List.eq_nil_iff_forall_not_mem.mpr ?_)) hempty
  intro model hmodel
  obtain ⟨identity,snapshot,hsnapshot,-⟩:=mem_modelsOf (mem_listed.mp hmodel)
  exact (nomatch (hlegacy identity).symm.trans hsnapshot)
 | some key=>
  simp only [hactive] at h
  cases haccount:cache.accounts[key]? with
  | none=>
   simp only [haccount] at h
   split_ifs at h with hempty
   refine absurd (List.isEmpty_iff.mpr (List.eq_nil_iff_forall_not_mem.mpr ?_)) hempty
   exact fun model hmodel=>List.not_mem_nil (mem_listed.mp hmodel)
  | some account=>
   simp only [haccount] at h
   split_ifs at h
   exact ⟨key,account,rfl,haccount,(Option.some.inj h).symm⟩

theorem catalogues_stay_apart (env:CatalogEnv) (history:List (ℕ×Call))
    (hbegun:Begun env history) : Apart env history:=by
  constructor
  · intro now token clientType models h
    obtain ⟨account,haccount,hmodels⟩:=Option.bind_eq_some_iff.mp h
    obtain ⟨⟨fetchedAt,_⟩,hsnapshot,rfl⟩:=Option.map_eq_some_iff.mp hmodels
    obtain ⟨hfresh,hstored⟩:=pruned_stored haccount hsnapshot
    exact ⟨fetchedAt,hfresh,hstored.fetched hbegun⟩
  · rintro earlier time observed middle rfl hovertaken now token clientType models hsame
    have houtdated:=hovertaken.outdated (observe_generation earlier time observed).le
    rw [List.append_assoc] at houtdated
    exact storeAtGeneration_outdated (hsame ▸ houtdated)
  · intro now models h
    obtain ⟨key,account,hactive,haccount,rfl⟩ :=
      discovered_some (@Sound.prune env history now _ (sound_run env history)).legacy h
    refine ⟨key,hactive,fun model hmodel=>?_⟩
    obtain ⟨identity,snapshot,hsnapshot,hmodel⟩:=mem_modelsOf (mem_listed.mp hmodel)
    obtain ⟨hfresh,hstored⟩:=pruned_stored haccount hsnapshot
    exact ⟨identity,snapshot,hmodel,hfresh,hstored.fetched hbegun⟩
  · intro now model id h
    obtain ⟨key,hactive,h⟩:=Option.bind_eq_some_iff.mp h
    obtain ⟨account,haccount,hfound⟩:=Option.bind_eq_some_iff.mp h
    obtain ⟨identity,snapshot,hsnapshot,hid⟩:=mem_modelsOf (List.mem_of_find?_eq_some hfound)
    obtain ⟨hfresh,hstored⟩:=pruned_stored haccount hsnapshot
    exact ⟨key,hactive,identity,snapshot,hid,hfresh,hstored.fetched hbegun⟩
  · intro earlier now token _ _
    obtain ⟨account,haccount,-⟩ :=
      (@observe_observed env now _ token (sound_run env earlier).latest).1.observed
    have hcall:=@run_append env earlier (now,.observe token)
    refine ⟨?_,observed_active earlier now token,?_⟩
    · rw [hcall]
      exact observe_size token
    · rw [hcall]
      exact mem_of_get haccount

end runs

def sampleEnv : CatalogEnv where
 accountCatalogKey token := token
 sortByObserved entries := entries.mergeSort fun first second=>first.2 ≤ second.2
 sort_perm entries := List.mergeSort_perm entries _
 sort_sorted entries:=by
  have hsorted:=@List.pairwise_mergeSort _ (fun first second:String×ℕ=>decide (first.2 ≤ second.2)) ?_ ?_ entries
  · exact hsorted.imp of_decide_eq_true
  · intro a b c hab hbc
    exact decide_eq_true ((of_decide_eq_true hab).trans (of_decide_eq_true hbc))
  · intro a b
    rcases Nat.le_total a.2 b.2 with h | h
    · exact Bool.or_eq_true_iff.mpr (Or.inl (decide_eq_true h))
    · exact Bool.or_eq_true_iff.mpr (Or.inr (decide_eq_true h))

/-- A fetch for `a`, stored before `b` is observed and then `a` again. -/
def switchedBack : List (ℕ×Call) :=
 [(1,.observe "a"),(2,.store "a" "cli" 1 ["m"]),(3,.observe "b"),(4,.observe "a")]

theorem switchedBack_begun : Begun sampleEnv switchedBack:=by
 intro before now token clientType generation models after hsplit
 match before,hsplit with
 | [],hsplit=>exact (nomatch hsplit)
 | [first],hsplit=>
  obtain ⟨rfl,hrest⟩:=List.cons.inj hsplit
  obtain ⟨hstore,-⟩:=List.cons.inj hrest
  obtain ⟨-,hstore⟩:=Prod.mk.inj hstore
  obtain ⟨rfl,-,rfl,-⟩:=Call.store.inj hstore
  exact ⟨[],1,"a",[],rfl,rfl,by decide +kernel⟩
 | first::second::third,hsplit=>
  obtain ⟨-,hrest⟩:=List.cons.inj hsplit
  obtain ⟨-,hrest⟩:=List.cons.inj hrest
  have hmem:(now,.store token clientType generation models) ∈ [(3,Call.observe "b"),(4,.observe "a")]:=by
   rw [hrest]
   exact List.mem_append_right third List.mem_cons_self
  rcases List.mem_cons.mp hmem with hmem | hmem
  · exact (nomatch (Prod.mk.inj hmem).2)
  · exact (nomatch (Prod.mk.inj (List.mem_singleton.mp hmem)).2)

theorem catalogues_stay_apart_switched : Apart sampleEnv switchedBack :=
  catalogues_stay_apart sampleEnv switchedBack switchedBack_begun

/-- What was fetched before the switch is still returned after it. -/
theorem snapshot_of_earlier_generation :
    ¬ ∀ (env:CatalogEnv) (history:List (ℕ×Call)),Begun env history →
      ∀ now token clientType models,
        lookedUp env token clientType (prune env now (run env history))=some models →
          ∃ before fetchedAt stored clientType' generation after account,
            history=before++(fetchedAt,.store stored clientType' generation models)::after ∧
            (run env history).accounts[env.accountCatalogKey token]?=some account ∧ account.generation=generation:=by
  intro h
  have hlooked:lookedUp sampleEnv "a" "cli" (prune sampleEnv 5 (run sampleEnv switchedBack))=some ["m"]:=by
    decide +kernel
  have hlatest:((run sampleEnv switchedBack).accounts["a"]?).map AccountLiveCatalog.generation = some 3:=by
    decide +kernel
  obtain ⟨before,fetchedAt,stored,clientType',generation,after,account,hsplit,haccount,
    hgeneration⟩ := h sampleEnv switchedBack switchedBack_begun 5 "a" "cli" ["m"] hlooked
  have haccount:(run sampleEnv switchedBack).accounts["a"]?=some account:=haccount
  rw [haccount] at hlatest
  have hmem:(fetchedAt,.store stored clientType' generation ["m"])∈switchedBack:=by
    rw [hsplit]
    exact List.mem_append_right _ List.mem_cons_self
  unfold switchedBack at hmem
  rcases List.mem_cons.mp hmem with hmem | hmem
  · exact (nomatch (Prod.mk.inj hmem).2)
  rcases List.mem_cons.mp hmem with hmem | hmem
  · obtain ⟨-,-,hfirst,-⟩:=Call.store.inj (Prod.mk.inj hmem).2
    rw [Option.map_some,hgeneration,hfirst] at hlatest
    exact (nomatch hlatest)
  rcases List.mem_cons.mp hmem with hmem | hmem
  · exact (nomatch (Prod.mk.inj hmem).2)
  · exact (nomatch (Prod.mk.inj (List.mem_singleton.mp hmem)).2)

end CursorProxy.LiveCatalogRuns
