import CursorProxy.AccountRegistry

/-! What every operation leaves, whichever of its writes fail: a pool with unique ids and an
active account, untouched entries where the operation had no business, and agreement with the
mirror after each operation that brings the two together. -/
namespace CursorProxy.RegistryIntegrity
open AccountFailover AccountRegistry KeyedUpserts XmlElements

def pool (files:Files) : StoredCursorAccounts := (loadStoredAccounts files).getD {}

def ids (stored:StoredCursorAccounts) : List Text := stored.accounts.map StoredCursorAccount.id

/-- Ids are unique, and without an active account there is none at all. -/
structure Sound (stored:StoredCursorAccounts) : Prop where
 nodup : (ids stored).Nodup
 wellFormed : ∀ account∈stored.accounts,wellFormed account=true
 active : ∀ id,stored.activeId=some id → id∈ids stored
 selected : stored.activeId=none → stored.accounts=[]

structure Active (stored:StoredCursorAccounts) (account:StoredCursorAccount) : Prop where
 mem : account∈stored.accounts
 id : stored.activeId=some account.id

variable {stored:StoredCursorAccounts}

theorem Active.unique {first second:StoredCursorAccount} (h:Sound stored)
 (hfirst:Active stored first) (hsecond:Active stored second) : first=second :=
 List.inj_on_of_nodup_map h.nodup hfirst.mem hsecond.mem (Option.some.inj (hfirst.id.symm.trans hsecond.id))

variable {account:StoredCursorAccount}

theorem Sound.find (h:Sound stored) (hmem:account∈stored.accounts) :
 stored.find account.id=some account := find?_key h.nodup hmem

theorem mem_of_find {id:Text} (h:stored.find id=some account) : account∈stored.accounts ∧ account.id=id:=by
 have hid:=List.find?_some h
 exact ⟨List.mem_of_find?_eq_some h,of_decide_eq_true hid⟩

variable {raw:StoredCursorAccounts}

theorem mem_readAccounts : account∈(readAccounts raw).accounts ↔ account∈raw.accounts ∧ wellFormed account=true:=by
 unfold readAccounts
 rw [List.mem_insertionSort,List.mem_filter]

theorem readAccounts_active (h:∀ id,raw.activeId=some id → ∃ account∈(readAccounts raw).accounts,account.id=id) :
 (readAccounts raw).activeId=raw.activeId:=by
 cases hactive:raw.activeId with
 | none=>
  unfold readAccounts
  dsimp only
  rw [hactive]
 | some id=>
  obtain ⟨account,hmem,hid⟩:=h id hactive
  have hany:((raw.accounts.filter wellFormed).insertionSort fun a b=>textLe a.id b.id).any
   (fun account=>account.id=id)=true :=
   List.any_eq_true.mpr ⟨account,hmem,decide_eq_true hid⟩
  unfold readAccounts
  dsimp only
  rw [hactive]
  dsimp only
  rw [if_pos hany]

theorem ids_readAccounts (raw:StoredCursorAccounts) :
 (ids (readAccounts raw)).Perm ((raw.accounts.filter wellFormed).map StoredCursorAccount.id) :=
 (List.perm_insertionSort _ _).map _

theorem sound_readAccounts (hnodup:(ids raw).Nodup)
 (hactive:∀ id,raw.activeId=some id → ∃ account∈raw.accounts,account.id=id ∧ wellFormed account=true)
 (hselected:raw.activeId=none → raw.accounts=[]) : Sound (readAccounts raw):=by
 have hread:∀ id,raw.activeId=some id → ∃ account∈(readAccounts raw).accounts,account.id=id:=by
  intro id hid
  obtain ⟨account,hmem,hsame,hwell⟩:=hactive id hid
  exact ⟨account,mem_readAccounts.mpr ⟨hmem,hwell⟩,hsame⟩
 have hsame:=readAccounts_active hread
 refine ⟨?_,fun account hmem=>(mem_readAccounts.mp hmem).2,fun id hid=>?_,fun hnone=>?_⟩
 · rw [(ids_readAccounts raw).nodup_iff]
   exact hnodup.sublist (List.filter_sublist.map _)
 · obtain ⟨account,hmem,hid⟩:=hread id (hsame ▸ hid)
   exact hid ▸ List.mem_map_of_mem hmem
 · refine List.eq_nil_iff_forall_not_mem.mpr fun account hmem=>?_
   rw [hsame] at hnone
   have hraw:=(mem_readAccounts.mp hmem).1
   rw [hselected hnone] at hraw
   exact absurd hraw List.not_mem_nil

theorem Sound.read (h:Sound stored) : Sound (readAccounts stored):=by
 refine sound_readAccounts h.nodup (fun id hid=>?_) h.selected
 obtain ⟨account,hmem,hsame⟩:=List.mem_map.mp (h.active id hid)
 exact ⟨account,hmem,hsame,h.wellFormed account hmem⟩

theorem Sound.mem_read (h:Sound stored) : account∈(readAccounts stored).accounts ↔ account∈stored.accounts :=
 mem_readAccounts.trans ⟨And.left,fun hmem=>⟨hmem,h.wellFormed account hmem⟩⟩

theorem Sound.read_active (h:Sound stored) : Active (readAccounts stored) account ↔ Active stored account:=by
 have hsame:(readAccounts stored).activeId=stored.activeId:=by
  refine readAccounts_active fun id hid=>?_
  obtain ⟨account,hmem,hsame⟩:=List.mem_map.mp (h.active id hid)
  exact ⟨account,h.mem_read.mpr hmem,hsame⟩
 constructor
 · exact fun hactive=>⟨h.mem_read.mp hactive.mem,hsame ▸ hactive.id⟩
 · exact fun hactive=>⟨h.mem_read.mpr hactive.mem,hsame.trans hactive.id⟩

variable {files:Files}

theorem pool_of_file (h:files.accountsFile=some stored) : pool files=readAccounts stored:=by
 unfold pool loadStoredAccounts
 rw [h]
 rfl

theorem pool_of_load (h:loadStoredAccounts files=some stored) : pool files=stored:=by
 unfold pool
 rw [h]
 rfl

theorem pool_congr {next:Files} (h:next.accountsFile=files.accountsFile) : pool next=pool files:=by
 unfold pool loadStoredAccounts
 rw [h]

theorem loadAuth_of_file {auth:StoredCursorAuth} (h:files.authFile=some auth)
 (hauth:isBlank auth.accessToken=false) : loadAuthForRegistryRaw files=some auth:=by
 unfold loadAuthForRegistryRaw storeLoad
 rw [h]
 exact Option.filter_eq_some_iff.mpr ⟨rfl,by rw [hauth]; rfl⟩

theorem not_blank_of_loadAuth {auth:StoredCursorAuth}
 (h:loadAuthForRegistryRaw files=some auth) : isBlank auth.accessToken=false:=by
 have hkept:=(Option.filter_eq_some_iff.mp h).2
 rw [Bool.not_eq_true'] at hkept
 exact hkept

def Digests (env:FailoverEnv) : Prop := ∀ text,isBlank (env.sha256 text)=false

variable {env:FailoverEnv} {stored:StoredCursorAccounts} {auth:StoredCursorAuth}

theorem identityMatches_self (env:FailoverEnv) (auth:StoredCursorAuth) :
 storedAuthIdentityMatches env auth auth=true:=by
 unfold storedAuthIdentityMatches
 rw [decide_eq_true rfl]
 rfl

theorem not_blank_of_wellFormed (h:wellFormed account=true) :
 isBlank account.id=false ∧ isBlank account.auth.accessToken=false:=by
 unfold wellFormed at h
 rw [Bool.and_eq_true,Bool.not_eq_true',Bool.not_eq_true'] at h
 exact h

theorem wellFormed_mk (hid:isBlank account.id=false)
 (hauth:isBlank account.auth.accessToken=false) : wellFormed account=true:=by
 unfold wellFormed
 rw [hid,hauth]
 rfl

theorem not_blank_loginId (hdigests:Digests env) (h:Sound stored)
 (auth:StoredCursorAuth) : isBlank (loginId env stored auth)=false:=by
 unfold loginId
 dsimp only
 cases hfound:(stored.activeId.filter _).or _ with
 | none=>exact hdigests _
 | some id=>
  have hmem:id∈ids stored:=by
   rcases Option.or_eq_some_iff.mp hfound with hactive | ⟨_,hfirst⟩
   · exact h.active id (Option.filter_eq_some_iff.mp hactive).1
   · obtain ⟨account,hfind,hid⟩:=Option.map_eq_some_iff.mp hfirst
     exact hid ▸ List.mem_map_of_mem (List.mem_of_find?_eq_some hfind)
  obtain ⟨account,haccount,rfl⟩:=List.mem_map.mp hmem
  exact (not_blank_of_wellFormed (h.wellFormed account haccount)).1

theorem not_blank_entryId (hdigests:Digests env) (h:Sound stored)
 (auth:StoredCursorAuth) : isBlank (entryId env stored auth)=false:=by
 unfold entryId
 cases hfound:(stored.accounts.find? _).map _ with
 | none=>exact hdigests _
 | some id=>
  obtain ⟨account,hfind,rfl⟩:=Option.map_eq_some_iff.mp hfound
  exact (not_blank_of_wellFormed (h.wellFormed account (List.mem_of_find?_eq_some hfind))).1

theorem loginId_of_active (h:Sound stored) (hactive:Active stored account)
 (hmatches:storedAuthIdentityMatches env account.auth auth=true) : loginId env stored auth=account.id:=by
 unfold loginId
 dsimp only
 rw [hactive.id,Option.filter_some,h.find hactive.mem]
 dsimp only
 rw [if_pos hmatches]
 rfl

theorem Sound.upsert (h:Sound stored) (hwell:AccountRegistry.wellFormed account=true)
 {active:Option Text} (hactive:active=some account.id ∨ active=stored.activeId ∧ active≠none) :
 Sound { upsertStoredAccount stored account with activeId := active }:=by
 have hkeys:∀ id,id∈ids stored ∨ id=account.id →
  id∈(KeyedUpserts.upsert StoredCursorAccount.id account stored.accounts).map StoredCursorAccount.id:=by
  intro id hid
  rw [keys_upsert]
  split
  · rename_i hmem
    rcases hid with hid | rfl
    · exact hid
    · exact hmem
  · exact List.mem_append.mpr (hid.imp_right List.mem_singleton.mpr)
 refine ⟨nodup_upsert h.nodup account,fun other hmem=>?_,fun id hid=>?_,fun hnone=>?_⟩
 · rcases (mem_upsert h.nodup).mp hmem with rfl | ⟨hold,_⟩
   · exact hwell
   · exact h.wellFormed other hold
 · apply hkeys
   change active=some id at hid
   rcases hactive with hnew | ⟨hold,_⟩
   · exact .inr (Option.some.inj (hid.symm.trans hnew))
   · exact .inl (h.active id (hold ▸ hid))
 · change active=none at hnone
   rcases hactive with hnew | ⟨_,hsome⟩
   · exact absurd (hnone.symm.trans hnew) (by simp)
   · exact absurd hnone hsome

def loginEntry (env:FailoverEnv) (stored:StoredCursorAccounts) (auth:StoredCursorAuth) : StoredCursorAccount where
 id := loginId env stored auth
 label := ((stored.find (loginId env stored auth)).bind StoredCursorAccount.label).or (email env auth)
 auth := auth

def synced (env:FailoverEnv) (files:Files) : StoredCursorAccounts :=
 syncActiveRegistry env (pool files) (loadAuthForRegistryRaw files)

/-- The entry of the login that was active before. -/
def previousIds (env:FailoverEnv) (files:Files) : List Text :=
 ((loadAuthForRegistryRaw files).map (loginId env (pool files))).toList

variable {files:Files}

theorem synced_none (h:loadAuthForRegistryRaw files=none) : synced env files=pool files:=by
 unfold synced
 rw [h]
 rfl

theorem synced_some (h:loadAuthForRegistryRaw files=some auth) :
 synced env files={ upsertStoredAccount (pool files) (loginEntry env (pool files) auth) with
  activeId := some (loginId env (pool files) auth) }:=by
 unfold synced
 rw [h]
 exact if_neg (Bool.eq_false_iff.mp (not_blank_of_loadAuth h))

theorem sound_synced (hdigests:Digests env) (h:Sound (pool files)) : Sound (synced env files):=by
 cases hauth:loadAuthForRegistryRaw files with
 | none=>
  rw [synced_none hauth]
  exact h
 | some auth=>
  rw [synced_some hauth]
  exact h.upsert (wellFormed_mk (not_blank_loginId hdigests h auth) (not_blank_of_loadAuth hauth)) (.inl rfl)

theorem active_synced (h:Sound (pool files)) (hauth:loadAuthForRegistryRaw files=some auth) :
 Active (synced env files) (loginEntry env (pool files) auth):=by
 rw [synced_some hauth]
 exact ⟨(mem_upsert h.nodup).mpr (.inl rfl),rfl⟩

theorem mem_synced (h:Sound (pool files)) (hid:account.id ∉ previousIds env files) :
 account∈(synced env files).accounts ↔ account∈(pool files).accounts:=by
 cases hauth:loadAuthForRegistryRaw files with
 | none=>rw [synced_none hauth]
 | some auth=>
  unfold previousIds at hid
  rw [hauth] at hid
  have hne:account.id≠loginId env (pool files) auth :=
   fun hsame=>hid (List.mem_singleton.mpr hsame)
  rw [synced_some hauth]
  constructor
  · intro hmem
    rcases (mem_upsert h.nodup).mp hmem with rfl | ⟨hold,_⟩
    · exact absurd rfl hne
    · exact hold
  · exact fun hmem=>(mem_upsert h.nodup).mpr (.inr ⟨hmem,hne⟩)

theorem preservePrevious_synced (hdigests:Digests env) (h:Sound (pool files)) :
 preservePrevious env (synced env files) (loadAuthForRegistryRaw files) = synced env files:=by
 cases hauth:loadAuthForRegistryRaw files with
 | none=>rfl
 | some auth=>
  have hactive:=@active_synced env auth files h hauth
  have hfind:=(sound_synced hdigests h).find hactive.mem
  have hid:loginId env (synced env files) auth=loginId env (pool files) auth :=
   loginId_of_active (sound_synced hdigests h) hactive (identityMatches_self env auth)
  have hlabel:loginEntry env (synced env files) auth=loginEntry env (pool files) auth:=by
   have hagain:∀ old mail : Option Text,(old.or mail).or mail=old.or mail:=by
    intro old mail
    cases old with
    | none=>cases mail <;> rfl
    | some=>rfl
   change (synced env files).find (loginId env (pool files) auth)=_ at hfind
   unfold loginEntry at hfind ⊢
   rw [hid,hfind]
   exact congrArg (fun label=>StoredCursorAccount.mk _ label auth) (hagain _ _)
  have hnotBlank:¬isBlank auth.accessToken=true :=
   Bool.eq_false_iff.mp (not_blank_of_loadAuth hauth)
  unfold preservePrevious
  dsimp only
  rw [if_neg hnotBlank]
  change StoredCursorAccounts.mk ((synced env files).activeId.or _)
   (KeyedUpserts.upsert _ (loginEntry env (synced env files) auth) _)=synced env files
  rw [hlabel,upsert_of_mem (sound_synced hdigests h).nodup hactive.mem,hactive.id]
  exact congrArg (fun active=>StoredCursorAccounts.mk active _) hactive.id.symm

theorem migrateLogin_synced (h:Sound (pool files)) :
 migrateLogin env (synced env files) (loadAuthForRegistryRaw files)=synced env files:=by
 cases hauth:loadAuthForRegistryRaw files with
 | none=>rfl
 | some auth=>
  have hmem:=(@active_synced env auth files h hauth).mem
  have hfull:(synced env files).accounts.isEmpty=false :=
   List.isEmpty_eq_false_iff.mpr (List.ne_nil_of_mem hmem)
  unfold migrateLogin
  dsimp only
  rw [hfull]
  rfl

end CursorProxy.RegistryIntegrity
