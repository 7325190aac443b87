import CursorProxy.RegistryIntegrity

namespace CursorProxy.RegistryOperations
open AccountFailover AccountRegistry KeyedUpserts RegistryIntegrity XmlElements

variable {env:FailoverEnv} {writes:Writes} {files next:Files} {α:Type}

theorem saveAuth_cases (writes:Writes) (auth:StoredCursorAuth) (files:Files) :
 (∃ error,saveAuth writes auth files=(.error error,files) ∧ (isBlank auth.accessToken=true ∨ writes.auth=false)) ∨
  isBlank auth.accessToken=false ∧ saveAuth writes auth files=(.ok (),{ files with authFile := some auth }):=by
 unfold saveAuth
 cases hblank:isBlank auth.accessToken with
 | true=>exact .inl ⟨_,rfl,.inl rfl⟩
 | false=>
  cases hwrite:writes.auth with
  | true=>exact .inr ⟨rfl,rfl⟩
  | false=>exact .inl ⟨_,rfl,.inr rfl⟩

theorem saveStoredAccounts_cases (writes:Writes) (stored:StoredCursorAccounts) (files:Files) :
 (∃ error,saveStoredAccounts writes stored files=(.error error,files) ∧ writes.accounts=false) ∨
  saveStoredAccounts writes stored files =
   (.ok (),{ files with accountsFile := some stored }) ∧ writes.accounts=true:=by
 unfold saveStoredAccounts
 cases hwrite:writes.accounts with
 | true=>exact .inr ⟨rfl,rfl⟩
 | false=>exact .inl ⟨_,rfl,rfl⟩

theorem store_cases {motive:Outcome α → Prop} (stored:StoredCursorAccounts) (answer:α)
 (files:Files) (herror:∀ error,writes.accounts=false → motive (.error error,files))
 (hdone:motive (.ok answer,{ files with accountsFile := some stored })) :
 motive (match saveStoredAccounts writes stored files with
  | (.error error,files)=>(.error error,files)
  | (.ok (),files)=>(.ok answer,files)):=by
 rcases saveStoredAccounts_cases writes stored files with ⟨error,hstore,hfailed⟩ | ⟨hstore,_⟩
 · rw [hstore]
   exact herror error hfailed
 · rw [hstore]
   exact hdone

theorem mirror_store_cases {motive:Outcome α → Prop} (auth:StoredCursorAuth)
 (stored:StoredCursorAccounts) (answer:α) (files:Files) (herror:∀ error,motive (.error error,files))
 (hmirror:∀ error,isBlank auth.accessToken=false → motive (.error error,{ files with authFile := some auth }))
 (hdone:isBlank auth.accessToken=false → motive (.ok answer,{ files with
  authFile := some auth
  accountsFile := some stored })) :
 motive (match saveAuth writes auth files with
  | (.error error,files)=>(.error error,files)
  | (.ok (),files)=>
   match saveStoredAccounts writes stored files with
   | (.error error,files)=>(.error error,files)
   | (.ok (),files)=>(.ok answer,files)):=by
 rcases saveAuth_cases writes auth files with ⟨error,hsave,_⟩ | ⟨hauth,hsave⟩
 · rw [hsave]
   exact herror error
 · rw [hsave]
   exact store_cases stored answer _ (fun error _=>hmirror error hauth) (hdone hauth)

theorem clearAuth_accountsFile (writes:Writes) (files:Files) :
 (clearAuth writes files).2.accountsFile=files.accountsFile:=by
 unfold clearAuth
 split
 · rfl
 · split <;> rfl

theorem clearAuth_ok (h:clearAuth writes files=(.ok (),next)) : next=⟨none,none,files.accountsFile,files.routes⟩:=by
 unfold clearAuth at h
 split at h
 · exact absurd (congrArg Prod.fst h) (by simp)
 · split at h
   · exact absurd (congrArg Prod.fst h) (by simp)
   · exact (congrArg Prod.snd h).symm

theorem clear_store_cases {motive:Outcome α → Prop} (stored:StoredCursorAccounts) (answer:α) (files:Files)
 (hcleared:∀ error next,next.accountsFile=files.accountsFile →
  (clearAuth writes files=(.error error,next) ∨
   clearAuth writes files=(.ok (),next) ∧ writes.accounts=false) → motive (.error error,next))
 (hdone:motive (.ok answer,⟨none,none,some stored,files.routes⟩)) : motive (match clearAuth writes files with
  | (.error error,files)=>(.error error,files)
  | (.ok (),files)=>
   match saveStoredAccounts writes stored files with
   | (.error error,files)=>(.error error,files)
   | (.ok (),files)=>(.ok answer,files)):=by
 have hpool:=clearAuth_accountsFile writes files
 cases hclear:clearAuth writes files with
 | mk result cleared=>
 rw [hclear] at hpool
 cases result with
 | error error=>exact hcleared error cleared hpool (.inl hclear)
 | ok=>
  refine store_cases stored answer cleared (fun error hfailed=>?_) ?_
  · exact hcleared error cleared hpool (.inr ⟨hclear,hfailed⟩)
  · rw [clearAuth_ok hclear]
    exact hdone

structure Entry (env:FailoverEnv) (files:Files) (auth:StoredCursorAuth)
 (account:StoredCursorAccount) : Prop where
 id : account.id=entryId env (synced env files) auth
 auth : account.auth=auth
 wellFormed : wellFormed account=true

theorem entry_mk (hdigests:Digests env) (h:Sound (pool files)) {auth:StoredCursorAuth}
 (hauth:isBlank auth.accessToken=false) (label:Option Text) :
 Entry env files auth ⟨entryId env (synced env files) auth,label,auth⟩ :=
 ⟨rfl,rfl,wellFormed_mk (not_blank_entryId hdigests (sound_synced hdigests h) auth) hauth⟩

def put (stored:StoredCursorAccounts) (account:StoredCursorAccount) (active:Option Text) :
 StoredCursorAccounts := { upsertStoredAccount stored account with activeId := active }

theorem save_cases {motive:Outcome StoredCursorAuth → Prop} (hdigests:Digests env)
 (h:Sound (pool files)) (auth:StoredCursorAuth) (label:Option Text) (herror:∀ error,motive (.error error,files))
 (hmirror:∀ error,isBlank auth.accessToken=false → motive (.error error,{ files with authFile := some auth }))
 (hdone:∀ account,Entry env files auth account → isBlank auth.accessToken=false →
  motive (.ok auth,{ files with
   authFile := some auth
   accountsFile := some (put (synced env files) account (some account.id)) })) :
 motive (saveCursorAuthAsActive env writes auth label files):=by
 unfold saveCursorAuthAsActive
 dsimp only
 split
 · exact herror _
 · rename_i hblank
   rw [Bool.not_eq_true] at hblank
   have hprevious:preservePrevious env (syncActiveRegistry env
    ((loadStoredAccounts files).getD {}) (loadAuthForRegistryRaw files))
     (loadAuthForRegistryRaw files)=synced env files := preservePrevious_synced hdigests h
   rw [hprevious]
   exact mirror_store_cases auth _ auth files herror hmirror (hdone _ (entry_mk hdigests h hblank _))

theorem add_cases {motive:Outcome StoredCursorAuth → Prop} (hdigests:Digests env)
 (h:Sound (pool files)) (auth:StoredCursorAuth) (label:Option Text) (herror:∀ error,motive (.error error,files))
 (hpool:∀ error account,Entry env files auth account → writes.accounts=true →
  writes.auth=false → motive (.error error,{ files with
   accountsFile := some (put (synced env files) account (some account.id)) }))
 (hboth:∀ account,Entry env files auth account → isBlank auth.accessToken=false →
  motive (.ok auth,{ files with
   authFile := some auth
   accountsFile := some (put (synced env files) account (some account.id)) }))
 (hother:∀ account,Entry env files auth account → (synced env files).activeId≠none →
  (synced env files).activeId≠some account.id → motive (.ok auth,{ files with
   accountsFile := some (put (synced env files) account (synced env files).activeId) })) :
 motive (addCursorAuth env writes auth label files):=by
 unfold addCursorAuth
 dsimp only
 split
 · exact herror _
 · rename_i hblank
   rw [Bool.not_eq_true] at hblank
   have hmigrate:migrateLogin env (syncActiveRegistry env
    ((loadStoredAccounts files).getD {}) (loadAuthForRegistryRaw files))
     (loadAuthForRegistryRaw files)=synced env files := migrateLogin_synced h
   rw [hmigrate]
   generalize entryLabel env (synced env files) (entryId env (synced env files) auth) auth label=label
   have hentry:=entry_mk hdigests h hblank label
   have hid:=hentry.id
   generalize (⟨entryId env (synced env files) auth,label,auth⟩ : StoredCursorAccount) = account at hentry hid ⊢
   rw [← hid]
   generalize hactive : (if (synced env files).activeId.isNone=true then some account.id
    else (synced env files).activeId)=active
   change motive (match saveStoredAccounts writes (put (synced env files) account active) files
    with
    | (.error error,files)=>(.error error,files)
    | (.ok (),files)=>_)
   rcases saveStoredAccounts_cases writes (put (synced env files) account active) files with
    ⟨error,hstore,_⟩ | ⟨hstore,hwritten⟩
   · rw [hstore]
     exact herror error
   · rw [hstore]
     dsimp only
     split
     · rename_i hactivated
       have hself:active=some account.id:=by
        rw [← hactive]
        rw [Bool.or_eq_true,decide_eq_true_eq] at hactivated
        split
        · rfl
        · rename_i hnone
          exact hactivated.resolve_left hnone
       rw [hself]
       rcases saveAuth_cases writes auth { files with
        accountsFile := some (put (synced env files) account (some account.id)) } with
        ⟨error,hsave,hfailed⟩ | ⟨_,hsave⟩
       · rw [hsave]
         refine hpool error account hentry hwritten (hfailed.resolve_left ?_)
         exact Bool.eq_false_iff.mp hblank
       · rw [hsave]
         exact hboth account hentry hblank
     · rename_i hkept
       rw [Bool.or_eq_true,decide_eq_true_eq,not_or] at hkept
       have hsame:active=(synced env files).activeId:=by
        rw [← hactive]
        exact if_neg hkept.1
       rw [hsame]
       refine hother account hentry (fun hnone=>hkept.1 ?_) hkept.2
       rw [hnone]
       rfl

theorem switch_cases {motive:Outcome StoredCursorAccount → Prop} (h:Sound (pool files))
 (id:Text) (herror:∀ error,motive (.error error,files))
 (hmirror:∀ error,∀ account∈(synced env files).accounts,
  motive (.error error,{ files with authFile := some account.auth }))
 (hdone:∀ account∈(synced env files).accounts,motive (.ok account,{ files with
  authFile := some account.auth
  accountsFile := some { synced env files with activeId := some account.id } })) :
 motive (switchCursorAccount env writes id files):=by
 unfold switchCursorAccount
 dsimp only
 split
 · exact herror _
 · have hmigrate:migrateLogin env (syncActiveRegistry env
    ((loadStoredAccounts files).getD {}) (loadAuthForRegistryRaw files))
     (loadAuthForRegistryRaw files)=synced env files := migrateLogin_synced h
   rw [hmigrate]
   split
   · exact herror _
   · rename_i account hfind
     have hmem:=(mem_of_find hfind).1
     exact mirror_store_cases account.auth _ account files herror
      (fun error _=>hmirror error account hmem) fun _=>hdone account hmem

theorem removeRoutes_cases (env:FailoverEnv) (writes:Writes) (removed:StoredCursorAccount)
 (remaining:List StoredCursorAccount) (files:Files) :
 (∃ error,removeRoutes env writes removed remaining files=(.error error,files)) ∨
  ∃ routes,removeRoutes env writes removed remaining files = (.ok (),{ files with routes := routes }):=by
 unfold removeRoutes
 dsimp only
 split
 · exact .inr ⟨files.routes,rfl⟩
 · split
   · exact .inr ⟨_,rfl⟩
   · exact .inl ⟨_,rfl⟩

def remaining (env:FailoverEnv) (files:Files) (id:Text) : List StoredCursorAccount :=
 (synced env files).accounts.filter fun account=>account.id≠id

theorem active_remaining (h:Sound (synced env files)) {id:Text} {account:StoredCursorAccount}
 (hmem:account∈(synced env files).accounts) (hkept:(synced env files).activeId≠some id) :
 ∃ active,Active (synced env files) active ∧ active∈remaining env files id:=by
 cases hactive:(synced env files).activeId with
 | none=>
  rw [h.selected hactive] at hmem
  exact absurd hmem List.not_mem_nil
 | some activeId=>
  obtain ⟨active,hold,rfl⟩:=List.mem_map.mp (h.active activeId hactive)
  have hne:active.id≠id:=fun hsame=>hkept (hactive.trans (congrArg some hsame))
  exact ⟨active,⟨hold,hactive⟩,List.mem_filter.mpr ⟨hold,decide_eq_true hne⟩⟩

theorem remove_cases {motive:Outcome (Option StoredCursorAccount) → Prop}
 (hdigests:Digests env) (h:Sound (pool files)) (id:Text)
 (herror:∀ error routes,motive (.error error,{ files with routes := routes }))
 (hmirror:∀ error routes,∀ account∈remaining env files (trim id),
  motive (.error error,{ files with routes := routes,authFile := some account.auth }))
 (hcleared:∀ error routes next,remaining env files (trim id)=[] →
  next.accountsFile=files.accountsFile →
  (clearAuth writes { files with routes := routes }=(.error error,next) ∨
   clearAuth writes { files with routes := routes }=(.ok (),next) ∧
    writes.accounts=false) → motive (.error error,next))
 (hmoved:∀ routes,∀ account∈remaining env files (trim id),
  isBlank account.auth.accessToken=false → motive (.ok (some account),{ files with
   routes := routes
   authFile := some account.auth
   accountsFile := some ⟨some account.id,remaining env files (trim id)⟩ }))
 (hlast:∀ routes,remaining env files (trim id)=[] → motive (.ok none,⟨none,none,some ⟨none,[]⟩,routes⟩))
 (hother:∀ routes account,Active (synced env files) account → account.id≠trim id →
  ∀ shown,motive (.ok shown,{ files with
   routes := routes
   accountsFile := some ⟨some account.id,remaining env files (trim id)⟩ })) :
 motive (removeCursorAccount env writes id files):=by
 have hsynced:=sound_synced hdigests h
 have hsync:syncActiveRegistry env ((loadStoredAccounts files).getD {})
  (loadAuthForRegistryRaw files)=synced env files := rfl
 have hrest:((synced env files).accounts.filter fun account=>account.id≠trim id) =
  remaining env files (trim id) := rfl
 unfold removeCursorAccount
 dsimp only
 rw [hsync,hrest]
 split
 · exact herror _ files.routes
 · split
   · exact herror _ files.routes
   · rename_i removed hfind
     rcases removeRoutes_cases env writes removed (remaining env files (trim id)) files with
      ⟨error,hroutes⟩ | ⟨routes,hroutes⟩
     · rw [hroutes]
       exact herror error files.routes
     · rw [hroutes]
       dsimp only
       split
       · cases hremaining:remaining env files (trim id) with
         | cons account others=>
          have hmem:account∈remaining env files (trim id):=by
           rw [hremaining]
           exact List.mem_cons_self
          dsimp only [List.head?_cons,Option.map_some]
          rw [hremaining] at hmoved
          exact mirror_store_cases account.auth _ _ _ (herror · routes)
           (fun error _=>hmirror error routes account hmem)
           (hmoved routes account List.mem_cons_self)
         | nil=>
          dsimp only [List.head?_nil,Option.map_none]
          exact clear_store_cases _ _ _ (fun error next=>hcleared error routes next hremaining)
           (hlast routes hremaining)
       · rename_i hkept
         obtain ⟨active,hactive,hremains⟩ :=
          active_remaining hsynced (mem_of_find hfind).1 hkept
         have hany:(remaining env files (trim id)).any (fun account=>account.id=active.id)=true :=
          List.any_eq_true.mpr ⟨active,hremains,decide_eq_true rfl⟩
         have hdangling:((synced env files).activeId.any fun active=>
          !(remaining env files (trim id)).any fun account=>account.id=active)=false:=by
          rw [hactive.id,Option.any_some,hany]
          rfl
         rw [hdangling,if_neg Bool.false_ne_true,hactive.id]
         exact store_cases _ _ _ (fun error _=>herror error routes)
          (hother routes active hactive (of_decide_eq_true (List.mem_filter.mp hremains).2) _)

theorem list_cases {motive:Outcome (List StoredCursorAccount) → Prop}
 (hsame:∀ shown,loadStoredAccounts files=none ∨ synced env files=pool files →
  motive (.ok shown,files)) (herror:∀ error,motive (.error error,files))
 (hwritten:∀ shown,motive (.ok shown,{ files with accountsFile := some (synced env files) })) :
 motive (listCursorAccounts env writes files):=by
 unfold listCursorAccounts
 dsimp only
 split
 · rename_i hload
   exact hsame _ (.inl hload)
 · rename_i before hload
   have hpool:=pool_of_load hload
   have hsynced:syncActiveRegistry env before (loadAuthForRegistryRaw files) = synced env files:=by
    unfold synced
    rw [hpool]
   rw [hsynced]
   split
   · rename_i hequal
     exact hsame _ (.inr (hequal.trans hpool.symm))
   · exact store_cases _ _ files (fun error _=>herror error) (hwritten _)

theorem commitRefresh_cases {motive:Outcome (Option StoredCursorAuth) → Prop}
 (auth:StoredCursorAuth) (refreshed:RefreshResponse)
 (hsame:∀ shown,motive (.ok shown,files)) (herror:∀ error,motive (.error error,files))
 (hmirror:storeLoad files=some auth → isBlank auth.accessToken=false →
  isBlank (refreshed.next auth).accessToken=false → (writes.accounts=false ∨ (loadStoredAccounts files).bind (fun stored=>
   syncRegistryAccountCredentials env stored auth.accessToken (refreshed.next auth))=none) →
  motive (.ok (some (refreshed.next auth)),{ files with
   authFile := some (refreshed.next auth) }))
 (hboth:isBlank (refreshed.next auth).accessToken=false → ∀ account,
  Active (pool files) account → motive (.ok (some (refreshed.next auth)),{ files with
   authFile := some (refreshed.next auth)
   accountsFile := some (put (pool files) { account with auth := refreshed.next auth }
    (pool files).activeId) })) :
 motive (commitRefresh env writes auth refreshed files):=by
 unfold commitRefresh
 split
 · exact hsame _
 · rename_i current hcurrent
   split
   · exact hsame _
   · rename_i hblank
     rw [Bool.not_eq_true] at hblank
     split
     · exact hsame _
     · rename_i hequal
       rw [ne_eq,not_not] at hequal
       subst hequal
       dsimp only
       rcases saveAuth_cases writes (refreshed.next current) files with
        ⟨error,hsave,_⟩ | ⟨hnext,hsave⟩
       · rw [hsave]
         exact herror error
       · rw [hsave]
         dsimp only
         split
         · rename_i hbind
           exact hmirror hcurrent hblank hnext (.inr hbind)
         · rename_i stored hbind
           change (loadStoredAccounts files).bind _=_ at hbind
           obtain ⟨before,hload,hsync⟩:=Option.bind_eq_some_iff.mp hbind
           have hpool:=pool_of_load hload
           unfold syncRegistryAccountCredentials at hsync
           dsimp only at hsync
           split at hsync
           · exact absurd hsync (by simp)
           · rename_i active hactive
             split at hsync
             · exact absurd hsync (by simp)
             · split at hsync
               · exact absurd hsync (by simp)
               · rename_i account hfind
                 split at hsync
                 · exact absurd hsync (by simp)
                 · split at hsync
                   · exact absurd hsync (by simp)
                   · obtain rfl:=Option.some.inj hsync
                     obtain ⟨hmem,rfl⟩:=mem_of_find hfind
                     rcases saveStoredAccounts_cases writes (upsertStoredAccount before
                      { account with auth := refreshed.next current }) { files with
                        authFile := some (refreshed.next current) } with
                      ⟨error,hstore,hfailed⟩ | ⟨hstore,_⟩
                     · rw [hstore]
                       exact hmirror hcurrent hblank hnext (.inl hfailed)
                     · rw [hstore]
                       rw [hpool] at hboth
                       exact hboth hnext account ⟨hmem,hactive⟩

theorem usage_cases {motive:Outcome StoredCursorAuth → Prop} (profile:StoredCursorAccount)
 (active:Bool) (refreshed:RefreshResponse) (herror:∀ error,motive (.error error,files))
 (hmirror:∀ error next,isBlank next.accessToken=false → motive (.error error,{ files with authFile := some next }))
 (hactive:∀ next account,Active (pool files) account → account.id=profile.id →
  isBlank next.accessToken=false → motive (.ok next,{ files with
   authFile := some next
   accountsFile := some (put (pool files) { account with auth := next }
    (pool files).activeId) }))
 (hother:∀ next,∀ account∈(pool files).accounts,account.id=profile.id →
  (pool files).activeId≠some account.id → motive (.ok next,{ files with
   accountsFile := some (put (pool files) { account with auth := next }
    (pool files).activeId) }))
 (hsame:∀ shown,profile.id ∉ ids (pool files) → motive (.ok shown,files))
 (hlegacy:∀ next,profile.id ∉ ids (pool files) → isBlank next.accessToken=false →
  motive (.ok next,{ files with authFile := some next })) :
 motive (refreshCursorAccountForUsage env writes profile active refreshed files):=by
 unfold refreshCursorAccountForUsage
 split
 · rename_i stored account hbind
   obtain ⟨before,hload,hfound⟩:=Option.bind_eq_some_iff.mp hbind
   obtain ⟨found,hfind,hpair⟩:=Option.map_eq_some_iff.mp hfound
   obtain ⟨rfl,rfl⟩:=Prod.mk.inj hpair
   have hpool:=pool_of_load hload
   obtain ⟨hmem,hid⟩:=mem_of_find hfind
   rw [hpool] at hactive hother
   dsimp only
   split
   · exact herror _
   · generalize refreshed.next found.auth=next
     by_cases hself:before.activeId=some profile.id
     · rw [if_pos hself]
       exact mirror_store_cases next _ _ files herror (fun error=>hmirror error next)
        (hactive next found ⟨hmem,hself.trans (congrArg some hid.symm)⟩ hid)
     · rw [if_neg hself]
       exact store_cases _ _ _ (fun error _=>herror error)
        (hother next found hmem hid (hid ▸ hself))
 · rename_i hbind
   have hmissing:profile.id ∉ ids (pool files):=by
    intro hmem
    obtain ⟨account,haccount,hid⟩:=List.mem_map.mp hmem
    unfold pool at haccount
    cases hload:loadStoredAccounts files with
    | none=>
     rw [hload] at haccount
     exact absurd haccount List.not_mem_nil
    | some before=>
     rw [hload] at haccount hbind
     have hnone:=Option.map_eq_none_iff.mp hbind
     exact absurd (List.find?_eq_none.mp hnone account haccount) (by simp [hid])
   split
   · exact herror _
   · dsimp only
     split
     · exact herror _
     · generalize refreshed.next profile.auth=next
       split
       · exact hsame _ hmissing
       · rcases saveAuth_cases writes next files with ⟨error,hsave,_⟩ | ⟨hnext,hsave⟩
         · rw [hsave]
           exact herror error
         · rw [hsave]
           exact hlegacy next hmissing hnext

end CursorProxy.RegistryOperations
