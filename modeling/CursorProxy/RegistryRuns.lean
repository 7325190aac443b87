import CursorProxy.RegistryOperations

namespace CursorProxy.RegistryRuns
open AccountFailover AccountRegistry KeyedUpserts RegistryIntegrity RegistryOperations XmlElements

variable {env:FailoverEnv} {writes:Writes} {files next:Files} {α:Type}

def Mirrored (files:Files) : Prop :=
 ∀ account,Active (pool files) account → loadAuthForRegistryRaw files=some account.auth

/-- The mirror holds it unless there is no mirror. -/
def Agrees (files:Files) : Prop :=
 ∀ account auth,Active (pool files) account → loadAuthForRegistryRaw files=some auth → account.auth=auth

def Present (files:Files) : Prop :=
 ∀ account,Active (pool files) account → loadAuthForRegistryRaw files≠none

theorem mirrored_iff : Mirrored files ↔ Agrees files ∧ Present files:=by
 constructor
 · intro h
   refine ⟨fun account auth hactive hauth=>?_,fun account hactive hnone=>?_⟩
   · exact Option.some.inj ((h account hactive).symm.trans hauth)
   · exact absurd ((h account hactive).symm.trans hnone) (by simp)
 · rintro ⟨hagrees,hpresent⟩ account hactive
   cases hauth:loadAuthForRegistryRaw files with
   | none=>exact absurd hauth (hpresent account hactive)
   | some auth=>rw [hagrees account auth hactive hauth]

/-- The pool stays sound, and only entries with these ids change. -/
structure Keeps (touched:List Text) (files next:Files) : Prop where
 sound : Sound (pool next)
 others : ∀ account:StoredCursorAccount,account.id ∉ touched →
  (account∈(pool next).accounts ↔ account∈(pool files).accounts)

structure Good (touched:List Text) (agreeing steady:Prop) (files:Files)
  (outcome:Outcome α) : Prop where
 keeps : Keeps touched files outcome.2
 agrees : ∀ answer,outcome.1=.ok answer → agreeing → Agrees outcome.2
 present : Present files → steady → Present outcome.2

theorem keeps_same (h:Sound (pool files)) (touched:List Text)
  (hfile:next.accountsFile=files.accountsFile) : Keeps touched files next:=by
 have hpool:=pool_congr hfile
 refine ⟨?_,fun account _=>?_⟩
 · rw [hpool]
   exact h
 · rw [hpool]

variable {stored:StoredCursorAccounts}

theorem keeps_written {touched:List Text} (h:Sound stored) (hfile:next.accountsFile=some stored)
  (hothers:∀ account:StoredCursorAccount,account.id ∉ touched → (account∈stored.accounts ↔ account∈(pool files).accounts))
  : Keeps touched files next:=by
 have hpool:=pool_of_file hfile
 refine ⟨?_,fun account hid=>?_⟩
 · rw [hpool]
   exact h.read
 · rw [hpool,h.mem_read]
   exact hothers account hid

variable {account:StoredCursorAccount}

theorem active_written (h:Sound stored) (hfile:next.accountsFile=some stored) :
  Active (pool next) account ↔ Active stored account:=by
 rw [pool_of_file hfile]
 exact h.read_active

variable {auth:StoredCursorAuth}

theorem present_of_mirror (h:loadAuthForRegistryRaw next=some auth) : Present next:=by
 intro account _ hnone
 exact absurd (h.symm.trans hnone) (by simp)

variable {agreeing steady:Prop}

theorem good_error (h:Sound (pool files)) {touched:List Text} {error:AccountError}
  (hfile:next.accountsFile=files.accountsFile)
  (hmirror:Present files → steady → loadAuthForRegistryRaw next=none → loadAuthForRegistryRaw files=none)
  : Good touched agreeing steady files ((.error error,next) : Outcome α) where
 keeps := keeps_same h touched hfile
 agrees _ hok := by cases hok
 present hpresent hsteady:=by
  intro account hactive hnone
  change Active (pool next) account at hactive
  rw [pool_congr hfile] at hactive
  exact hpresent account hactive (hmirror hpresent hsteady hnone)

theorem good_mirror (h:Sound (pool files)) {touched:List Text} {error:AccountError}
  (hfile:next.accountsFile=files.accountsFile) (hauth:loadAuthForRegistryRaw next=some auth) :
  Good touched agreeing steady files ((.error error,next) : Outcome α) :=
 good_error h hfile fun _ _ hnone=>absurd (hauth.symm.trans hnone) (by simp)

theorem active_of_ne_none (h:Sound stored) (hactive:stored.activeId≠none) : ∃ account,Active stored account:=by
 obtain ⟨id,hid⟩:=Option.ne_none_iff_exists'.mp hactive
 obtain ⟨account,hmem,rfl⟩:=List.mem_map.mp (h.active id hid)
 exact ⟨account,hmem,hid⟩

theorem mirror_of_synced (hpresent:Present files) {account:StoredCursorAccount}
  (hactive:Active (synced env files) account) : loadAuthForRegistryRaw files≠none:=by
 intro hnone
 rw [synced_none hnone] at hactive
 exact hpresent account hactive hnone

theorem auth_of_synced (hdigests:Digests env) (h:Sound (pool files))
  (hactive:Active (synced env files) account) (hauth:loadAuthForRegistryRaw files=some auth) : account.auth=auth:=by
 have hentry:account=loginEntry env (pool files) auth :=
  hactive.unique (sound_synced hdigests h) (active_synced h hauth)
 rw [hentry]
 rfl

theorem active_put (h:Sound stored) {other:StoredCursorAccount}
  (hactive:Active (put stored account (some account.id)) other) : other=account:=by
 have hid:account.id=other.id:=Option.some.inj hactive.id
 rcases (mem_upsert h.nodup).mp hactive.mem with hsame | ⟨_,hne⟩
 · exact hsame
 · exact absurd hid.symm hne

theorem keeps_put (hdigests:Digests env) (h:Sound (pool files))
  (hentry:Entry env files auth account) {active:Option Text}
  (hactive:active=some account.id ∨ active=(synced env files).activeId ∧ active≠none)
  (hfile:next.accountsFile=some (put (synced env files) account active)) :
  Keeps (entryId env (synced env files) auth::previousIds env files) files next:=by
 have hsynced:=sound_synced hdigests h
 refine keeps_written (hsynced.upsert hentry.wellFormed hactive) hfile fun other hid=>?_
 rw [List.mem_cons,not_or,← hentry.id] at hid
 rw [← mem_synced h hid.2]
 constructor
 · intro hmem
   rcases (mem_upsert hsynced.nodup).mp hmem with rfl | ⟨hold,_⟩
   · exact absurd rfl hid.1
   · exact hold
 · exact fun hmem=>(mem_upsert hsynced.nodup).mpr (.inr ⟨hmem,hid.1⟩)

theorem mem_remaining {id:Text} :
  account∈remaining env files id ↔ account∈(synced env files).accounts ∧ account.id≠id:=by
 unfold remaining
 rw [List.mem_filter,decide_eq_true_eq]

theorem keeps_remaining (hdigests:Digests env) (h:Sound (pool files)) {id:Text}
  {active:Option Text} (hactive:∀ account,active=some account →
   account∈(remaining env files id).map StoredCursorAccount.id) (hselected:active=none → remaining env files id=[])
  (hfile:next.accountsFile=some ⟨active,remaining env files id⟩) :
  Sound ⟨active,remaining env files id⟩ ∧ Keeps (id::previousIds env files) files next:=by
 have hsynced:=sound_synced hdigests h
 have hsound:Sound ⟨active,remaining env files id⟩:=by
  refine ⟨hsynced.nodup.sublist (List.filter_sublist.map _),fun account hmem=>?_,hactive,
   hselected⟩
  exact hsynced.wellFormed account (mem_remaining.mp hmem).1
 refine ⟨hsound,keeps_written hsound hfile fun account hid=>?_⟩
 rw [List.mem_cons,not_or] at hid
 rw [← mem_synced h hid.2]
 exact mem_remaining.trans ⟨And.left,fun hmem=>⟨hmem,hid.1⟩⟩

theorem refreshed_pool (h:Sound (pool files)) {account:StoredCursorAccount}
  (hmem:account∈(pool files).accounts) {auth:StoredCursorAuth}
  (hauth:(pool files).activeId=some account.id → isBlank auth.accessToken=false)
  (hfile:next.accountsFile = some (put (pool files) { account with auth := auth } (pool files).activeId)) :
  Keeps [account.id] files next ∧ ∀ other,Active (pool next) other →
   other={ account with auth := auth } ∧ Active (pool files) account ∨
    Active (pool files) other ∧ other.id≠account.id:=by
 have hid:=(not_blank_of_wellFormed (h.wellFormed account hmem)).1
 have hraw:∀ other:StoredCursorAccount,
   other∈(put (pool files) { account with auth := auth } (pool files).activeId).accounts ↔
    other={ account with auth := auth } ∨
     other∈(pool files).accounts ∧ other.id≠account.id :=
  fun other=>mem_upsert h.nodup
 have hactive:∀ id,(pool files).activeId=some id →
   ∃ other∈(put (pool files) { account with auth := auth } (pool files).activeId).accounts,
    other.id=id ∧ wellFormed other=true:=by
  intro id hactive
  by_cases hsame:id=account.id
  · subst hsame
    exact ⟨_,(hraw _).mpr (.inl rfl),rfl,wellFormed_mk hid (hauth hactive)⟩
  · obtain ⟨other,hother,rfl⟩:=List.mem_map.mp (h.active id hactive)
    exact ⟨other,(hraw other).mpr (.inr ⟨hother,hsame⟩),rfl,h.wellFormed other hother⟩
 have hnodup:(ids (put (pool files) { account with auth:=auth }
   (pool files).activeId)).Nodup := nodup_upsert h.nodup _
 have hsound:=sound_readAccounts hnodup hactive
  fun hnone=>absurd hmem (by rw [h.selected hnone]; exact List.not_mem_nil)
 have hpool:=pool_of_file hfile
 have hsame:(readAccounts (put (pool files) { account with auth:=auth }
   (pool files).activeId)).activeId=(pool files).activeId:=by
  refine readAccounts_active fun id hid=>?_
  obtain ⟨other,hother,hsame,hwell⟩:=hactive id hid
  exact ⟨other,mem_readAccounts.mpr ⟨hother,hwell⟩,hsame⟩
 refine ⟨⟨?_,fun other hother=>?_⟩,fun other hother=>?_⟩
 · rw [hpool]
   exact hsound
 · have hne:other.id≠account.id:=fun hsame=>hother (List.mem_singleton.mpr hsame)
   rw [hpool,mem_readAccounts,hraw]
   constructor
   · rintro ⟨rfl | ⟨hold,_⟩,_⟩
     · exact absurd rfl hne
     · exact hold
   · exact fun hold=>⟨.inr ⟨hold,hne⟩,h.wellFormed other hold⟩
 · rw [hpool] at hother
   have hactiveId:=hsame.symm.trans hother.id
   rcases (hraw other).mp (mem_readAccounts.mp hother.mem).1 with rfl | ⟨hold,hne⟩
   · exact .inl ⟨rfl,hmem,hactiveId⟩
   · exact .inr ⟨⟨hold,hactiveId⟩,hne⟩

theorem good_put (hdigests:Digests env) (h:Sound (pool files))
  (hentry:Entry env files auth account) (hblank:isBlank auth.accessToken=false) (answer:α) :
  Good (entryId env (synced env files) auth::previousIds env files) agreeing steady files
   (.ok answer,{ files with
    authFile := some auth
    accountsFile := some (put (synced env files) account (some account.id)) }):=by
 have hauth:=@loadAuth_of_file { files with
  authFile := some auth
  accountsFile := some (put (synced env files) account (some account.id)) } auth rfl hblank
 have hsynced:=sound_synced hdigests h
 refine ⟨keeps_put hdigests h hentry (.inl rfl) rfl,fun _ _ _=>?_,
  fun _ _=>present_of_mirror hauth⟩
 intro other login hother hlogin
 have hsame:=active_put hsynced ((active_written (hsynced.upsert hentry.wellFormed (.inl rfl)) rfl).mp hother)
 rw [hsame,hentry.auth]
 exact Option.some.inj (hauth.symm.trans hlogin)

theorem good_refreshed (h:Sound (pool files)) (hactive:Active (pool files) account)
  (hblank:isBlank auth.accessToken=false) (answer:α) :
  Good [account.id] agreeing steady files (.ok answer,{ files with
   authFile := some auth
   accountsFile := some (put (pool files) { account with auth := auth }
    (pool files).activeId) }):=by
 have hauth:=@loadAuth_of_file { files with
  authFile := some auth
  accountsFile := some (put (pool files) { account with auth := auth }
   (pool files).activeId) } _ rfl hblank
 obtain ⟨hkeeps,hactives⟩:=@refreshed_pool files { files with
  authFile := some auth
  accountsFile := some (put (pool files) { account with auth := auth }
   (pool files).activeId) } h account hactive.mem auth (fun _=>hblank) rfl
 refine ⟨hkeeps,fun _ _ _=>?_,fun _ _=>present_of_mirror hauth⟩
 intro other login hother hlogin
 rcases hactives other hother with ⟨rfl,_⟩ | ⟨hold,hne⟩
 · exact Option.some.inj (hauth.symm.trans hlogin)
 · rw [hold.unique h hactive] at hne
   exact absurd rfl hne

theorem good_save (hdigests:Digests env) (h:Sound (pool files)) (auth:StoredCursorAuth) (label:Option Text) :
  Good (entryId env (synced env files) auth::previousIds env files) agreeing steady files
   (saveCursorAuthAsActive env writes auth label files):=by
 refine save_cases hdigests h auth label (fun error=>?_) (fun error hblank=>?_)
  fun account hentry hblank=>?_
 · exact good_error h rfl fun _ _ hnone=>hnone
 · exact good_mirror h rfl (loadAuth_of_file rfl hblank)
 · exact good_put hdigests h hentry hblank auth

theorem good_add (hdigests:Digests env) (h:Sound (pool files)) (auth:StoredCursorAuth) (label:Option Text) :
  Good (entryId env (synced env files) auth::previousIds env files) agreeing
   (loadAuthForRegistryRaw files=none → (pool files).accounts=[] → writes.accounts=true → writes.auth=true) files
   (addCursorAuth env writes auth label files):=by
 have hsynced:=sound_synced hdigests h
 refine add_cases hdigests h auth label (fun error=>?_)
  (fun error account hentry hwritten hfailed=>?_) (fun account hentry hblank=>?_)
  fun account hentry hsome hne=>?_
 · exact good_error h rfl fun _ _ hnone=>hnone
 · refine ⟨keeps_put hdigests h hentry (.inl rfl) rfl,fun _ hok=>(by cases hok),
    fun hpresent hsteady=>?_⟩
   intro other _ hnone
   have hmissing:loadAuthForRegistryRaw files=none:=hnone
   have hempty:(pool files).accounts=[]:=by
    refine h.selected (Classical.byContradiction fun hactive=>?_)
    obtain ⟨account,hactive⟩:=active_of_ne_none h hactive
    exact hpresent account hactive hmissing
   rw [hsteady hmissing hempty hwritten] at hfailed
   exact absurd hfailed (by decide)
 · exact good_put hdigests h hentry hblank auth
 · obtain ⟨first,hfirst⟩:=active_of_ne_none hsynced hsome
   -- the active account is another one and keeps its entry
   have hkept:∀ other,Active (pool { files with
     accountsFile := some (put (synced env files) account (synced env files).activeId) }) other →
      Active (synced env files) other:=by
    intro other hother
    obtain ⟨hmem,hid⟩:=(active_written (hsynced.upsert hentry.wellFormed (.inr ⟨rfl,hsome⟩)) rfl).mp hother
    change (synced env files).activeId=some other.id at hid
    rcases (mem_upsert hsynced.nodup).mp hmem with rfl | ⟨hold,_⟩
    · exact absurd hid hne
    · exact ⟨hold,hid⟩
   refine ⟨keeps_put hdigests h hentry (.inr ⟨rfl,hsome⟩) rfl,fun _ _ _=>?_,
    fun hpresent _=>?_⟩
   · exact fun other login hother hlogin=>auth_of_synced hdigests h (hkept other hother) hlogin
   · exact fun other hother=>@mirror_of_synced env files hpresent other (hkept other hother)

theorem good_switch (hdigests:Digests env) (h:Sound (pool files)) (id:Text) :
  Good (previousIds env files) agreeing steady files (switchCursorAccount env writes id files):=by
 have hsynced:=sound_synced hdigests h
 refine switch_cases h id (fun error=>?_) (fun error account hmem=>?_)
  fun account hmem=>?_
 · exact good_error h rfl fun _ _ hnone=>hnone
 · have hblank:=(not_blank_of_wellFormed (hsynced.wellFormed account hmem)).2
   exact good_mirror h rfl (loadAuth_of_file rfl hblank)
 · have hblank:=(not_blank_of_wellFormed (hsynced.wellFormed account hmem)).2
   have hauth:=@loadAuth_of_file { files with
    authFile := some account.auth
    accountsFile := some { synced env files with activeId := some account.id } } _ rfl hblank
   have hsound:Sound { synced env files with activeId:=some account.id }:=by
    refine ⟨hsynced.nodup,hsynced.wellFormed,fun id hid=>?_,fun hnone=>?_⟩
    · exact Option.some.inj hid ▸ List.mem_map_of_mem hmem
    · exact absurd hnone (by simp)
   refine ⟨keeps_written hsound rfl fun other hid=>mem_synced h hid,fun _ _ _=>?_,
    fun _ _=>present_of_mirror hauth⟩
   intro other login hother hlogin
   have hself:Active { synced env files with activeId:=some account.id } account := ⟨hmem,rfl⟩
   have hsame:=((active_written hsound rfl).mp hother).unique hsound hself
   rw [hsame]
   exact Option.some.inj (hauth.symm.trans hlogin)

theorem clearAuth_routes (writes:Writes) (files:Files) (routes:List Text) :
  clearAuth writes { files with routes := routes } =
   ((clearAuth writes files).1,{ (clearAuth writes files).2 with routes := routes }):=by
 unfold clearAuth
 dsimp only
 split
 · rfl
 · split <;> rfl

theorem good_remove (hdigests:Digests env) (h:Sound (pool files)) (id:Text) :
  Good (trim id::previousIds env files) agreeing
   (remaining env files (trim id)=[] → (clearAuth writes files).2=files ∨
    (clearAuth writes files).1=.ok () ∧ writes.accounts=true) files (removeCursorAccount env writes id files):=by
 have hsynced:=sound_synced hdigests h
 have hwell:∀ account∈remaining env files (trim id),isBlank account.auth.accessToken=false := fun account hmem=>
  (not_blank_of_wellFormed (hsynced.wellFormed account (mem_remaining.mp hmem).1)).2
 refine remove_cases hdigests h id (fun error routes=>?_) (fun error routes account hmem=>?_)
  (fun error routes next hempty hfile hclear=>?_) (fun routes account hmem hblank=>?_)
  (fun routes hempty=>?_) fun routes account hactive hne shown=>?_
 · exact good_error h rfl fun _ _ hnone=>hnone
 · exact good_mirror h rfl (loadAuth_of_file rfl (hwell account hmem))
 · refine good_error h hfile fun _ hsteady hnone=>?_
   rw [clearAuth_routes] at hclear
   have hkept:(clearAuth writes files).2=files:=by
    refine (hsteady hempty).resolve_right ?_
    rintro ⟨hok,hwritten⟩
    rcases hclear with hfailed | ⟨_,hlost⟩
    · have herror:=congrArg Prod.fst hfailed
      exact absurd (hok.symm.trans herror) (by simp)
    · exact absurd (hwritten.symm.trans hlost) (by simp)
   have hnext:next={ files with routes:=routes }:=by
    rw [hkept] at hclear
    rcases hclear with hfailed | ⟨hfailed,_⟩
    · exact (congrArg Prod.snd hfailed).symm
    · exact (congrArg Prod.snd hfailed).symm
   rw [hnext] at hnone
   exact hnone
 · have hauth:=@loadAuth_of_file { files with
    routes := routes
    authFile := some account.auth
    accountsFile := some ⟨some account.id,remaining env files (trim id)⟩ } _ rfl hblank
   obtain ⟨hsound,hkeeps⟩:=@keeps_remaining env files { files with
    routes := routes
    authFile := some account.auth
    accountsFile := some ⟨some account.id,remaining env files (trim id)⟩ } hdigests h (trim id)
    (some account.id) (fun id hid=>Option.some.inj hid ▸ List.mem_map_of_mem hmem)
    (fun hnone=>absurd hnone (by simp)) rfl
   refine ⟨hkeeps,fun _ _ _=>?_,fun _ _=>present_of_mirror hauth⟩
   intro other login hother hlogin
   have hself:Active ⟨some account.id,remaining env files (trim id)⟩ account:=⟨hmem,rfl⟩
   have hsame:=((active_written hsound rfl).mp hother).unique hsound hself
   rw [hsame]
   exact Option.some.inj (hauth.symm.trans hlogin)
 · obtain ⟨hsound,hkeeps⟩:=@keeps_remaining env files
    ⟨none,none,some ⟨none,remaining env files (trim id)⟩,routes⟩ hdigests h (trim id) none
    (fun _ hid=>(nomatch hid)) (fun _=>hempty) rfl
   rw [hempty] at hsound hkeeps
   have hnobody:∀ account,¬Active (pool ⟨none,none,some ⟨none,[]⟩,routes⟩) account :=
    fun account hactive=>absurd ((active_written hsound rfl).mp hactive).mem List.not_mem_nil
   refine ⟨hkeeps,fun _ _ _=>?_,fun _ _=>?_⟩
   · exact fun account _ hactive=>absurd hactive (hnobody account)
   · exact fun account hactive=>absurd hactive (hnobody account)
 · obtain ⟨hsound,hkeeps⟩:=@keeps_remaining env files { files with
    routes := routes
    accountsFile := some ⟨some account.id,remaining env files (trim id)⟩ } hdigests h (trim id)
    (some account.id) (fun id hid=>Option.some.inj hid ▸
     List.mem_map_of_mem (mem_remaining.mpr ⟨hactive.mem,hne⟩))
    (fun hnone=>absurd hnone (by simp)) rfl
   have hkept:∀ other,Active (pool { files with
     routes := routes
     accountsFile := some ⟨some account.id,remaining env files (trim id)⟩ }) other →
      Active (synced env files) other:=by
    intro other hother
    obtain ⟨hmem,hid⟩:=(active_written hsound rfl).mp hother
    exact ⟨(mem_remaining.mp hmem).1,hactive.id.trans hid⟩
   refine ⟨hkeeps,fun _ _ _=>?_,fun hpresent _=>?_⟩
   · exact fun other login hother hlogin=>auth_of_synced hdigests h (hkept other hother) hlogin
   · exact fun other hother=>@mirror_of_synced env files hpresent other (hkept other hother)

theorem good_list (hdigests:Digests env) (h:Sound (pool files)) :
  Good (previousIds env files) agreeing steady files (listCursorAccounts env writes files):=by
 have hsynced:=sound_synced hdigests h
 refine list_cases (fun shown hsame=>?_) (fun error=>?_) fun shown=>?_
 · refine ⟨keeps_same h _ rfl,fun _ _ _=>?_,fun hpresent _=>hpresent⟩
   intro account auth hactive hauth
   rcases hsame with hload | hpool
   · unfold pool at hactive
     rw [hload] at hactive
     exact absurd hactive.mem List.not_mem_nil
   · exact auth_of_synced hdigests h (hpool ▸ hactive) hauth
 · exact good_error h rfl fun _ _ hnone=>hnone
 · refine ⟨keeps_written hsynced rfl fun other hid=>mem_synced h hid,fun _ _ _=>?_,
    fun hpresent _=>?_⟩
   · exact fun account auth hactive hauth=>
      auth_of_synced hdigests h ((active_written hsynced rfl).mp hactive) hauth
   · exact fun account hactive=>@mirror_of_synced env files hpresent account
      ((active_written hsynced rfl).mp hactive)

theorem auth_of_unnoticed (h:Sound (pool files)) (hactive:Active (pool files) account) {next:StoredCursorAuth}
  (hidentity:changesIdentity env account.auth.accessToken next.accessToken=false)
  (hnone:(loadStoredAccounts files).bind (fun stored=>syncRegistryAccountCredentials env stored account.auth.accessToken next)=none)
  :
  account.auth=next:=by
 have hload:loadStoredAccounts files=some (pool files):=by
  cases hload:loadStoredAccounts files with
  | none=>
   have hmem:=hactive.mem
   unfold pool at hmem
   rw [hload] at hmem
   exact absurd hmem List.not_mem_nil
  | some stored=>
   unfold pool
   rw [hload]
   rfl
 have hdigest:¬(account.id≠cursorAccountDigest env account.auth.accessToken ∧
   storedAccountId env account.auth≠cursorAccountDigest env account.auth.accessToken) :=
  fun hboth=>hboth.2 rfl
 rw [hload] at hnone
 change syncRegistryAccountCredentials env (pool files) account.auth.accessToken next=none
  at hnone
 unfold syncRegistryAccountCredentials at hnone
 dsimp only at hnone
 rw [hactive.id] at hnone
 dsimp only at hnone
 rw [if_neg (Bool.eq_false_iff.mp hidentity),h.find hactive.mem] at hnone
 dsimp only at hnone
 rw [if_neg hdigest] at hnone
 by_contra hdiffers
 rw [if_neg hdiffers] at hnone
 exact absurd hnone (by simp)

theorem good_commitRefresh (h:Sound (pool files)) (auth:StoredCursorAuth) (refreshed:RefreshResponse) :
  Good (pool files).activeId.toList
   (Agrees files ∧ writes.accounts=true ∧
    changesIdentity env auth.accessToken refreshed.accessToken=false) steady files
   (commitRefresh env writes auth refreshed files):=by
 refine commitRefresh_cases auth refreshed (fun shown=>?_) (fun error=>?_)
  (fun hload hold hblank hlost=>?_) fun hblank account hactive=>?_
 · exact ⟨keeps_same h _ rfl,fun _ _ hagreeing=>hagreeing.1,fun hpresent _=>hpresent⟩
 · exact good_error h rfl fun _ _ hnone=>hnone
 · have hbefore:loadAuthForRegistryRaw files=some auth:=by
    unfold loadAuthForRegistryRaw
    rw [hload]
    exact Option.filter_eq_some_iff.mpr ⟨rfl,by rw [hold]; rfl⟩
   have hauth:=@loadAuth_of_file { files with authFile := some (refreshed.next auth) } _ rfl
    hblank
   refine ⟨keeps_same h _ rfl,fun _ _ hagreeing=>?_,fun _ _=>present_of_mirror hauth⟩
   obtain ⟨hagrees,hwritten,hidentity⟩:=hagreeing
   have hnone:=hlost.resolve_left (by rw [hwritten]; exact Bool.noConfusion)
   intro other login hother hlogin
   have hactive:Active (pool files) other:=hother
   obtain rfl:=hagrees other auth hactive hbefore
   exact (auth_of_unnoticed h hactive hidentity hnone).trans (Option.some.inj (hauth.symm.trans hlogin))
 · have hid:(pool files).activeId.toList=[account.id]:=by
    rw [hactive.id]
    rfl
   rw [hid]
   exact good_refreshed h hactive hblank _

theorem good_usage (h:Sound (pool files)) (profile:StoredCursorAccount) (active:Bool) (refreshed:RefreshResponse) :
  Good [profile.id] (Agrees files ∧ (profile.id∈ids (pool files) ∨ (pool files).accounts=[])) steady files
   (refreshCursorAccountForUsage env writes profile active refreshed files):=by
 refine usage_cases profile active refreshed (fun error=>?_) (fun error next hblank=>?_)
  (fun next account hactive hid hblank=>?_) (fun next account hmem hid hne=>?_)
  (fun shown hmissing=>?_) fun next hmissing hblank=>?_
 · exact good_error h rfl fun _ _ hnone=>hnone
 · exact good_mirror h rfl (loadAuth_of_file rfl hblank)
 · exact hid ▸ good_refreshed h hactive hblank next
 · obtain ⟨hkeeps,hactives⟩:=@refreshed_pool files { files with
    accountsFile := some (put (pool files) { account with auth := next }
     (pool files).activeId) } h account hmem next (fun hself=>absurd hself hne) rfl
   have hkept:∀ other,Active (pool { files with
     accountsFile := some (put (pool files) { account with auth := next }
      (pool files).activeId) }) other → Active (pool files) other:=by
    intro other hother
    rcases hactives other hother with ⟨_,hself⟩ | ⟨hold,_⟩
    · exact absurd hself.id hne
    · exact hold
   refine ⟨hid ▸ hkeeps,fun _ _ hagreeing=>?_,fun hpresent _=>?_⟩
   · exact fun other login hother hlogin=>hagreeing.1 other login (hkept other hother) hlogin
   · exact fun other hother=>hpresent other (hkept other hother)
 · exact ⟨keeps_same h _ rfl,fun _ _ hagreeing=>hagreeing.1,fun hpresent _=>hpresent⟩
 · have hauth:=@loadAuth_of_file { files with authFile := some next } _ rfl hblank
   refine ⟨keeps_same h _ rfl,fun _ _ hagreeing=>?_,fun _ _=>present_of_mirror hauth⟩
   intro other login hother _
   have hempty:=hagreeing.2.resolve_left hmissing
   have hmem:other∈(pool files).accounts:=hother.mem
   rw [hempty] at hmem
   exact absurd hmem List.not_mem_nil

def Belongs (env:FailoverEnv) (auth:StoredCursorAuth) (account:StoredCursorAccount) : Prop :=
 account.id=storedAccountId env auth ∨ storedAuthIdentityMatches env account.auth auth=true

/-- The credential is in its entry, which is a new one only for a login without any. -/
structure Updates (env:FailoverEnv) (files next:Files) (auth:StoredCursorAuth) : Prop where
 entry : ∃ account∈(pool next).accounts,account.id=entryId env (synced env files) auth ∧ account.auth=auth
 known : (∃ account∈(synced env files).accounts,Belongs env auth account) →
  (ids (pool next)).Perm (ids (synced env files))

theorem entryId_mem (hmem:account∈stored.accounts) (hbelongs:Belongs env auth account)
  : entryId env stored auth∈ids stored:=by
 unfold entryId
 cases hfind:stored.accounts.find? (fun account=>account.id=storedAccountId env auth ||
   storedAuthIdentityMatches env account.auth auth) with
 | none=>
  have hnot:=List.find?_eq_none.mp hfind account hmem
  rw [Bool.or_eq_true,decide_eq_true_eq] at hnot
  exact absurd hbelongs hnot
 | some found=>exact List.mem_map_of_mem (List.mem_of_find?_eq_some hfind)

theorem updates_put (hdigests:Digests env) (h:Sound (pool files))
  (hentry:Entry env files auth account) {active:Option Text}
  (hactive:active=some account.id ∨ active=(synced env files).activeId ∧ active≠none)
  (hfile:next.accountsFile=some (put (synced env files) account active)) : Updates env files next auth:=by
 have hsynced:=sound_synced hdigests h
 have hsound:=hsynced.upsert hentry.wellFormed hactive
 have hpool:=pool_of_file hfile
 refine ⟨⟨account,?_,hentry.id,hentry.auth⟩,fun hknown=>?_⟩
 · rw [hpool]
   exact hsound.mem_read.mpr ((mem_upsert hsynced.nodup).mpr (.inl rfl))
 · obtain ⟨other,hmem,hbelongs⟩:=hknown
   have hid:=entryId_mem hmem hbelongs
   rw [← hentry.id] at hid
   have hall:(put (synced env files) account active).accounts.filter wellFormed =
     (put (synced env files) account active).accounts :=
    List.filter_eq_self.mpr hsound.wellFormed
   have hkeys:ids (put (synced env files) account active)=ids (synced env files):=by
    unfold ids put upsertStoredAccount
    dsimp only
    rw [keys_upsert]
    exact if_pos hid
   rw [hpool]
   refine (ids_readAccounts _).trans ?_
   rw [hall]
   exact hkeys ▸ List.Perm.refl _

theorem updates_save (hdigests:Digests env) (h:Sound (pool files)) (auth:StoredCursorAuth)
  (label:Option Text) (answer:StoredCursorAuth) :
  (saveCursorAuthAsActive env writes auth label files).1=.ok answer →
   Updates env files (saveCursorAuthAsActive env writes auth label files).2 auth:=by
 refine save_cases (motive := fun outcome=>outcome.1=.ok answer →
   Updates env files outcome.2 auth) hdigests h auth label (fun _ hok=>?_)
  (fun _ _ hok=>?_) fun account hentry _ _=>updates_put hdigests h hentry (.inl rfl) rfl
 · cases hok
 · cases hok

theorem updates_add (hdigests:Digests env) (h:Sound (pool files)) (auth:StoredCursorAuth)
  (label:Option Text) (answer:StoredCursorAuth) :
  (addCursorAuth env writes auth label files).1=.ok answer →
   Updates env files (addCursorAuth env writes auth label files).2 auth:=by
 refine add_cases (motive := fun outcome=>outcome.1=.ok answer →
   Updates env files outcome.2 auth) hdigests h auth label (fun _ hok=>?_)
  (fun _ _ _ _ _ hok=>?_) (fun account hentry _ _=>updates_put hdigests h hentry (.inl rfl) rfl)
  fun account hentry hsome _ _=>updates_put hdigests h hentry (.inr ⟨rfl,hsome⟩) rfl
 · cases hok
 · cases hok

theorem present_save (hdigests:Digests env) (h:Sound (pool files)) (auth:StoredCursorAuth)
  (label:Option Text) (answer:StoredCursorAuth) :
  (saveCursorAuthAsActive env writes auth label files).1=.ok answer →
   Present (saveCursorAuthAsActive env writes auth label files).2:=by
 refine save_cases (motive := fun outcome=>outcome.1=.ok answer → Present outcome.2) hdigests
  h auth label (fun _ hok=>?_) (fun _ _ hok=>?_)
  fun _ _ hblank _=>present_of_mirror (loadAuth_of_file rfl hblank)
 · cases hok
 · cases hok

theorem present_switch (hdigests:Digests env) (h:Sound (pool files)) (id:Text) (answer:StoredCursorAccount) :
  (switchCursorAccount env writes id files).1=.ok answer → Present (switchCursorAccount env writes id files).2:=by
 have hwell:=(sound_synced hdigests h).wellFormed
 refine switch_cases (motive := fun outcome=>outcome.1=.ok answer → Present outcome.2) h id
  (fun _ hok=>?_) (fun _ _ _ hok=>?_) fun account hmem _=>present_of_mirror
   (loadAuth_of_file rfl (not_blank_of_wellFormed (hwell account hmem)).2)
 · cases hok
 · cases hok

/-- The entries that an operation names, and the previous login that it preserves. -/
def touched (env:FailoverEnv) (files:Files) : Operation → List Text
 | .saveCursorAuthAsActive auth _ | .addCursorAuth auth _=>
  entryId env (synced env files) auth::previousIds env files
 | .switchCursorAccount _ | .listCursorAccounts=>previousIds env files
 | .removeCursorAccount id=>trim id::previousIds env files
 | .commitRefresh _ _=>(pool files).activeId.toList
 | .refreshCursorAccountForUsage profile _ _=>[profile.id]

def Operation.selects : Operation → Bool
 | .saveCursorAuthAsActive _ _ | .switchCursorAccount _=>true
 | _=>false

def Operation.login : Operation → Option StoredCursorAuth
 | .saveCursorAuthAsActive auth _ | .addCursorAuth auth _=>some auth
 | _=>none

/-- Refreshes do not bring the pool together with the mirror, and what they do to the two is
in step only where these were in step, the writing of the pool succeeds and the account stays
the same. -/
def InStep (env:FailoverEnv) (writes:Writes) (files:Files) : Operation → Prop
 | .commitRefresh auth refreshed=>Agrees files ∧ writes.accounts=true ∧
  changesIdentity env auth.accessToken refreshed.accessToken=false
 | .refreshCursorAccountForUsage profile _ _=>
  Agrees files ∧ (profile.id∈ids (pool files) ∨ (pool files).accounts=[])
 | _=>True

/-- The mirror of the first account is written with it, and that of the last one is deleted
with it or not at all. -/
def KeepsMirror (env:FailoverEnv) (writes:Writes) (files:Files) : Operation → Prop
 | .addCursorAuth _ _=>loadAuthForRegistryRaw files=none → (pool files).accounts=[] →
  writes.accounts=true → writes.auth=true
 | .removeCursorAccount id=>remaining env files (trim id)=[] →
  (clearAuth writes files).2=files ∨
   (clearAuth writes files).1=.ok () ∧ writes.accounts=true
 | _=>True

def Steady (env:FailoverEnv) (writes:Writes) (files:Files) (operation:Operation) : Prop :=
 InStep env writes files operation ∧ KeepsMirror env writes files operation

theorem Good.perform {touched:List Text} {outcome:Outcome α}
  (h:Good touched agreeing steady files outcome) (drop:α → Unit) (same:Files → Files)
  (hsame:∀ files,same files=files) : Good touched agreeing steady files (outcome.map (·.map drop) same):=by
 obtain ⟨result,next⟩:=outcome
 have hnext:(Prod.map (·.map drop) same (result,next)).2=next:=hsame next
 refine ⟨?_,fun answer hok hagreeing=>?_,fun hpresent hsteady=>?_⟩
 · rw [hnext]
   exact h.keeps
 · rw [hnext]
   cases result with
   | ok value=>exact h.agrees value rfl hagreeing
   | error=>cases hok
 · rw [hnext]
   exact h.present hpresent hsteady

theorem good_perform (hdigests:Digests env) (h:Sound (pool files)) (operation:Operation) :
  Good (touched env files operation) (InStep env writes files operation)
   (KeepsMirror env writes files operation) files (perform env writes files operation):=by
 cases operation with
 | saveCursorAuthAsActive auth label=>
  exact (good_save hdigests h auth label).perform _ _ fun _=>rfl
 | addCursorAuth auth label=>exact (good_add hdigests h auth label).perform _ _ fun _=>rfl
 | switchCursorAccount id=>exact (good_switch hdigests h id).perform _ _ fun _=>rfl
 | removeCursorAccount id=>exact (good_remove hdigests h id).perform _ _ fun _=>rfl
 | listCursorAccounts=>exact (good_list hdigests h).perform _ _ fun _=>rfl
 | commitRefresh auth refreshed=>exact (good_commitRefresh h auth refreshed).perform _ _ fun _=>rfl
 | refreshCursorAccountForUsage profile active refreshed=>
  exact (good_usage h profile active refreshed).perform _ _ fun _=>rfl

theorem ok_of_map {outcome:Outcome α} {drop:α → Unit} {same:Files → Files}
  (h:(outcome.map (·.map drop) same).1=.ok ()) : ∃ answer,outcome.1=.ok answer:=by
 obtain ⟨result,next⟩:=outcome
 cases result with
 | ok answer=>exact ⟨answer,rfl⟩
 | error=>cases h

theorem updates_perform (hdigests:Digests env) (h:Sound (pool files)) {operation:Operation}
  (hlogin:Operation.login operation=some auth) (hok:(perform env writes files operation).1=.ok ()) :
  Updates env files (perform env writes files operation).2 auth:=by
 cases operation with
 | saveCursorAuthAsActive login label=>
  obtain rfl:=Option.some.inj hlogin
  obtain ⟨answer,hanswer⟩:=ok_of_map hok
  exact updates_save hdigests h login label answer hanswer
 | addCursorAuth login label=>
  obtain rfl:=Option.some.inj hlogin
  obtain ⟨answer,hanswer⟩:=ok_of_map hok
  exact updates_add hdigests h login label answer hanswer
 | switchCursorAccount | removeCursorAccount | listCursorAccounts | commitRefresh
 | refreshCursorAccountForUsage=>cases hlogin

theorem present_perform (hdigests:Digests env) (h:Sound (pool files)) {operation:Operation}
  (hselects:Operation.selects operation=true) (hok:(perform env writes files operation).1=.ok ()) :
  Present (perform env writes files operation).2:=by
 cases operation with
 | saveCursorAuthAsActive login label=>
  obtain ⟨answer,hanswer⟩:=ok_of_map hok
  exact present_save hdigests h login label answer hanswer
 | switchCursorAccount id=>
  obtain ⟨answer,hanswer⟩:=ok_of_map hok
  exact present_switch hdigests h id answer hanswer
 | addCursorAuth | removeCursorAccount | listCursorAccounts | commitRefresh
 | refreshCursorAccountForUsage=>cases hselects

/-- The files that a run of allowed steps can leave. -/
inductive Reaches (env:FailoverEnv) (allowed:Writes → Files → Operation → Prop)
  (start:Files) : Files → Prop
 | start : Reaches env allowed start start
 | step {files:Files} (before:Reaches env allowed start files) (writes:Writes)
  (operation:Operation) (step:allowed writes files operation) :
  Reaches env allowed start (perform env writes files operation).2

theorem Reaches.sound {allowed:Writes → Files → Operation → Prop} {start:Files}
  (hdigests:Digests env) (hstart:Sound (pool start)) (h:Reaches env allowed start files) : Sound (pool files):=by
 induction h with
 | start=>exact hstart
 | step _ writes operation _ ih=>exact (good_perform hdigests ih operation).keeps.sound

theorem Reaches.present {start:Files} (hdigests:Digests env) (hstart:Sound (pool start))
  (hpresent:Present start) (h:Reaches env (Steady env) start files) : Present files:=by
 induction h with
 | start=>exact hpresent
 | step before writes operation hsteady ih=>
  exact (good_perform hdigests (before.sound hdigests hstart) operation).present ih hsteady.2

def bearerEnv : FailoverEnv where
 parseJwtClaims _ := none
 sha256 _ := "f0b256f268e5163a3956e488c9bb7b4be14d6f43c5422c9995f681d7bbb14ddf".toList

def workAccount : StoredCursorAccount := ⟨"work".toList,none,⟨"bearer".toList,none,none⟩⟩

def workFiles : Files where
 authFile := some workAccount.auth
 legacyAuthFile := none
 accountsFile := some ⟨some workAccount.id,[workAccount]⟩
 routes := []

theorem bearerEnv_digests : Digests bearerEnv:=by
 have hdigest:isBlank (bearerEnv.sha256 [])=false:=by decide
 exact fun _=>hdigest

theorem workFiles_sound : Sound (pool workFiles):=by
 have hpool:pool workFiles=⟨some workAccount.id,[workAccount]⟩:=rfl
 rw [hpool]
 refine ⟨List.nodup_singleton _,fun account hmem=>?_,fun id hid=>?_,fun hnone=>?_⟩
 · rw [List.mem_singleton.mp hmem]
   decide
 · exact List.mem_singleton.mpr (Option.some.inj hid).symm
 · exact absurd hnone (by simp)

theorem workFiles_mirrored : Mirrored workFiles:=by
 intro account hactive
 have hmem:account∈[workAccount]:=hactive.mem
 rw [List.mem_singleton.mp hmem]
 rfl

end CursorProxy.RegistryRuns
