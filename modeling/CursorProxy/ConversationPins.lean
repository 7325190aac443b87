import CursorProxy.ConversationModel

/-! The pins of a session count the leases that are held on it. No section takes a pinned binding
out of the store or gives it another id, except the one of `reset`. -/
namespace CursorProxy.ConversationPins
open AtomicSections ConversationModel

/-- The store binds the session to the conversation id. -/
def Bound (store:Store) (sessionId conversationId:String) : Prop :=
 ∃ entry,store.map.lookup sessionId=some entry ∧ entry.conversationId=conversationId

/-- Pins and leases stay, and so do the pinned bindings. -/
structure Keeps (before after:World) : Prop where
 pins : after.store.pins=before.store.pins
 leases : after.leases=before.leases
 bound : ∀ sessionId conversationId,before.store.pinned sessionId=true →
  Bound before.store sessionId conversationId → Bound after.store sessionId conversationId

variable {before middle after world:World} {sessionId:String}

theorem Keeps.refl : Keeps world world := ⟨rfl,rfl,fun _ _ _ h=>h⟩

theorem Keeps.pinned (h:Keeps before after) (sessionId:String) :
  after.store.pinned sessionId=before.store.pinned sessionId:=by
 unfold Store.pinned
 rw [h.pins]

theorem Keeps.trans (h:Keeps before middle) (h':Keeps middle after) : Keeps before after:=by
 refine ⟨h'.pins.trans h.pins,h'.leases.trans h.leases,fun sessionId id hpinned hbound=>?_⟩
 exact h'.bound sessionId id ((h.pinned sessionId).trans hpinned) (h.bound sessionId id hpinned hbound)

theorem keeps_same (hstore:after.store=before.store) (hleases:after.leases=before.leases) : Keeps before after :=
 ⟨by rw [hstore],hleases,fun _ _ _ hbound=>by rw [hstore]; exact hbound⟩

variable {store:Store}

theorem keeps_store (hpins:store.pins=world.store.pins)
  (hother:∀ other,other≠sessionId → store.map.lookup other=world.store.map.lookup other)
  (hself:world.store.pinned sessionId=true → ∀ conversationId,Bound world.store sessionId conversationId → Bound store sessionId conversationId)
  : Keeps world (world.withStore store):=by
 refine ⟨hpins,rfl,fun other conversationId hpinned hbound=>?_⟩
 by_cases hsession:other=sessionId
 · subst hsession
   exact hself hpinned conversationId hbound
 · obtain ⟨entry,hentry,hid⟩:=hbound
   exact ⟨entry,(hother other hsession).trans hentry,hid⟩

variable {entry:CursorConversation}

theorem keeps_setEntry {changed:CursorConversation} (hentry:world.store.map.lookup sessionId=some entry)
  (hid:changed.conversationId=entry.conversationId) :
  Keeps world (world.withStore (world.store.setEntry sessionId changed)):=by
 refine keeps_store rfl (fun other hother=>AList.lookup_insert_ne hother) ?_
 rintro _ conversationId ⟨found,hfound,rfl⟩
 rw [Option.some.inj (hfound.symm.trans hentry)]
 exact ⟨changed,AList.lookup_insert _,hid⟩

theorem keeps_addEntry (habsent:world.store.pinned sessionId=true → sessionId ∉ world.store.map) :
  Keeps world (world.withStore (world.store.addEntry sessionId entry)):=by
 refine keeps_store rfl (fun other hother=>AList.lookup_insert_ne hother) ?_
 rintro hpinned conversationId ⟨found,hfound,_⟩
 exact absurd (AList.lookup_isSome.mp (Option.isSome_of_eq_some hfound)) (habsent hpinned)

theorem keeps_order (order:List String) : Keeps world (world.withStore { world.store with order := order }) :=
 ⟨rfl,rfl,fun _ _ _ hbound=>hbound⟩

theorem keeps_erase {order:List String} (h:world.store.pinned sessionId=false) :
  Keeps world (world.withStore { world.store with
   map := world.store.map.erase sessionId
   order := order }):=by
 refine keeps_store rfl (fun other hother=>AList.lookup_erase_ne hother) fun hpinned=>?_
 rw [h] at hpinned
 exact absurd hpinned (by simp)

theorem queuePersistedDelete_keeps (world:World) (sessionId:String) (conversation:Option CursorConversation) :
  Keeps world (world.queuePersistedDelete sessionId conversation):=by
 unfold World.queuePersistedDelete
 dsimp only
 split
 · exact .refl
 · exact keeps_same rfl rfl

theorem removeEntry_keeps (h:world.store.pinned sessionId=false) : Keeps world (world.removeEntry sessionId) :=
 (keeps_erase h).trans (queuePersistedDelete_keeps _ _ _)

theorem evictOldest_keeps (remaining:ℕ) (world:World) : Keeps world (World.evictOldest remaining world):=by
 induction remaining generalizing world with
 | zero=>exact .refl
 | succ remaining ih=>
  unfold World.evictOldest
  split
  · split
    · exact .refl
    · split
      · exact (keeps_order _).trans (ih _)
      · rename_i hpinned
        have hfree:=Bool.eq_false_iff.mpr hpinned
        exact ((keeps_erase hfree).trans (queuePersistedDelete_keeps _ _ _)).trans (ih _)
  · exact .refl

variable {now:ℕ}

theorem staleSessions_free {key:String} (h:key∈World.staleSessions store now) : store.pinned key=false:=by
 obtain ⟨entry,hentry,rfl⟩:=List.mem_map.mp h
 have hexpired:=(List.mem_filter.mp hentry).2
 unfold Store.expired at hexpired
 rw [Bool.and_eq_true,Bool.not_eq_true'] at hexpired
 exact hexpired.1

theorem removeAll_keeps (sessionId:String) (keys:List String) :
  ∀ world:World,(∀ key∈keys,world.store.pinned key=false) →
   Keeps world (keys.foldl (fun world key=>if key=sessionId then world else world.removeEntry key) world):=by
 induction keys with
 | nil=>exact fun _ _=>.refl
 | cons key keys ih=>
  intro world hfree
  have hone:Keeps world (if key=sessionId then world else world.removeEntry key):=by
   split
   · exact .refl
   · exact removeEntry_keeps (hfree key List.mem_cons_self)
  refine hone.trans (ih _ fun other hother=>?_)
  rw [hone.pinned]
  exact hfree other (List.mem_cons_of_mem _ hother)

theorem touch_keeps (world:World) (sessionId:String) (now:ℕ) :
  Keeps world (world.withStore (World.touch world.store sessionId now)):=by
 unfold World.touch
 split
 · rename_i entry hentry
   exact keeps_setEntry hentry rfl
 · exact .refl

theorem touchAndEvict_keeps (world:World) (sessionId:String) (now:ℕ) :
  Keeps world (world.touchAndEvict sessionId now):=by
 unfold World.touchAndEvict
 dsimp only
 have hevicted:=evictOldest_keeps (World.touch world.store sessionId now).order.length
  (world.withStore (World.touch world.store sessionId now))
 refine ((touch_keeps world sessionId now).trans hevicted).trans ?_
 exact removeAll_keeps sessionId _ _ fun key hkey=>staleSessions_free hkey

theorem createEntry_keeps {fresh:String} (habsent:world.store.pinned sessionId=true → sessionId ∉ world.store.map) :
  Keeps world (createEntry world sessionId now fresh).world :=
 (keeps_addEntry habsent).trans (touchAndEvict_keeps _ _ _)

theorem adopt_keeps {disk:CursorConversation} (habsent:sessionId ∉ world.store.map) :
  Keeps world (adopt world sessionId disk now) :=
 (keeps_addEntry fun _=>habsent).trans (touchAndEvict_keeps _ _ _)

theorem expired_free (h:store.expired sessionId entry now=true) : store.pinned sessionId=false:=by
 unfold Store.expired at h
 rw [Bool.and_eq_true,Bool.not_eq_true'] at h
 exact h.1

theorem queued_store (world:World) (sessionId:String) (conversation:Option CursorConversation) :
  (world.queuePersistedDelete sessionId conversation).store=world.store:=by
 unfold World.queuePersistedDelete
 dsimp only
 split <;> rfl

theorem getOrCreate_keeps (env:ConversationEnv) (world:World) (sessionId:String) (now:ℕ)
  (fresh:String) : Keeps world (getOrCreate env world sessionId now fresh).world:=by
 unfold getOrCreate
 split
 · split
   · rename_i hexpired
     have hremoved:=removeEntry_keeps (expired_free hexpired)
     refine hremoved.trans (createEntry_keeps fun hpinned=>?_)
     rw [hremoved.pinned,expired_free hexpired] at hpinned
     exact absurd hpinned (by simp)
   · exact touchAndEvict_keeps _ _ _
 · rename_i hnone
   have habsent:sessionId ∉ world.store.map:=AList.lookup_eq_none.mp hnone
   split
   · split
     · exact adopt_keeps habsent
     · refine (queuePersistedDelete_keeps _ _ _).trans (createEntry_keeps fun _=>?_)
       rw [queued_store]
       exact habsent
   · exact createEntry_keeps fun _=>habsent

theorem get_keeps (env:ConversationEnv) (world:World) (sessionId:String) (now:ℕ) :
  Keeps world (get env world sessionId now).1:=by
 unfold ConversationModel.get
 split
 · split
   · rename_i hexpired
     exact removeEntry_keeps (expired_free hexpired)
   · exact touchAndEvict_keeps _ _ _
 · rename_i hnone
   split
   · exact .refl
   · split
     · exact queuePersistedDelete_keeps _ _ _
     · exact adopt_keeps (AList.lookup_eq_none.mp hnone)

def Named (change:Change) : Prop := ∀ entry,(change entry).1.conversationId=entry.conversationId

variable {change:Change}

theorem setChanged_keeps (now:ℕ) (hentry:world.store.map.lookup sessionId=some entry)
  (hnamed:Named change) : Keeps world (setChanged world sessionId (change entry).1 now):=by
 have hset:Keeps world (world.withStore (world.store.setEntry sessionId
   { (change entry).1 with lastSeen := now })) := keeps_setEntry hentry (hnamed entry)
 exact hset.trans (touchAndEvict_keeps _ _ _)

theorem updateEntry_keeps (now:ℕ) (hnamed:Named change) : Keeps world (updateEntry world sessionId now change):=by
 unfold updateEntry
 split
 · exact .refl
 · rename_i entry hentry
   exact setChanged_keeps now hentry hnamed

theorem ensureEntry_keeps (world:World) (sessionId:String) (now:ℕ) (fresh:String) :
  Keeps world (world.withStore (ensureEntry world.store sessionId now fresh)):=by
 unfold ensureEntry
 split
 · exact .refl
 · rename_i habsent
   exact keeps_addEntry fun _=>habsent

variable {expected:String}

theorem changed_keeps (now:ℕ) (hnamed:Named change) :
  Keeps world (changed world sessionId expected (updateIfCurrent world sessionId expected now change)).1:=by
 unfold updateIfCurrent
 split
 · exact .refl
 · rename_i entry hentry
   split
   · exact .refl
   · exact setChanged_keeps now hentry hnamed

theorem replaceCheckpoint_named (checkpoint:Option Bytes) : Named (replaceCheckpoint checkpoint) :=
 fun _=>rfl

theorem mergeInto_named (blobs:AList fun _ : Bytes=>Bytes) : Named (mergeInto blobs) :=
 fun _=>rfl

theorem rollBack_keeps (world:World) (sessionId expected:String) (undo:Undo) :
  Keeps world (rollBack world sessionId expected undo):=by
 unfold rollBack
 split
 · exact .refl
 · rename_i entry hentry
   split
   · exact keeps_setEntry hentry (undo.rollBack_conversationId entry)
   · exact .refl

theorem normalizeKvStore_keeps {fresh:String}
  (h:normalizeKvStore world sessionId expected now fresh=some after) : Keeps world after:=by
 obtain ⟨entry,_,hnormal⟩:=Option.bind_eq_some_iff.mp h
 split at hnormal
 · exact absurd hnormal (by simp)
 · rename_i hfree
   obtain rfl:=Option.some.inj hnormal
   refine keeps_store rfl (fun other hother=>AList.lookup_insert_ne hother) fun hpinned=>?_
   exact absurd (.inr (.inl hpinned)) hfree

theorem removeFile_keeps (io:Io) (world:World) (path:String) : Keeps world (removeFile io world path):=by
 unfold removeFile
 split <;> exact keeps_same rfl rfl

theorem flushPending_keeps (env:ConversationEnv) (io:Io) (world:World)
  (pending:PendingPersistDelete) : Keeps world (flushPending env io world pending):=by
 unfold flushPending
 split
 · split
   · exact removeFile_keeps _ _ _
   · exact .refl
 · exact .refl

theorem expirePersisted_keeps (env:ConversationEnv) (io:Io) (world:World) (path:String)
  (now:ℕ) : Keeps world (expirePersisted env io world path now):=by
 unfold expirePersisted
 split
 · exact .refl
 · dsimp only
   split <;> split <;> first | exact removeFile_keeps _ _ _ | exact .refl

theorem persistConversationUnlocked_keeps (env:ConversationEnv) (io:Io) (world:World)
  (sessionId:String) (conv:CursorConversation) :
  Keeps world (release (persistConversationUnlocked env io world sessionId conv).1):=by
 obtain ⟨hstore,hleases,_⟩:=persistConversationUnlocked_spec env io world sessionId conv
 exact keeps_same hstore hleases

def PinsCount (pins:AList fun _ : String=>ℕ) (count:String → ℕ) : Prop :=
 ∀ sessionId,pins.lookup sessionId =
  if count sessionId=0 then none else some (count sessionId)

variable {pins:AList fun _ : String=>ℕ} {count:String → ℕ}

theorem PinsCount.congr {other:String → ℕ} (h:PinsCount pins count)
  (heq:∀ sessionId,other sessionId=count sessionId) : PinsCount pins other:=by
 rw [funext heq]
 exact h

theorem pinsCount_insert (h:PinsCount pins count) (sessionId:String) :
  PinsCount (pins.insert sessionId ((pins.lookup sessionId).getD 0+1))
   fun other=>count other+if other=sessionId then 1 else 0:=by
 intro other
 beta_reduce
 by_cases hother:other=sessionId
 · subst hother
   have hcount:(pins.lookup other).getD 0=count other:=by
    rw [h other]
    split
    · rename_i hzero
      exact hzero.symm
    · rfl
   rw [AList.lookup_insert,hcount,if_pos rfl,if_neg (Nat.succ_ne_zero _)]
 · rw [AList.lookup_insert_ne hother,if_neg hother,Nat.add_zero]
   exact h other

variable {sessionId:String}

theorem pinsCount_drop (h:PinsCount pins count) {number:ℕ} (hnumber:pins.lookup sessionId=some number) :
  PinsCount (if number-1=0 then pins.erase sessionId
   else pins.insert sessionId (number-1))
   fun other=>count other-if other=sessionId then 1 else 0:=by
 have hcount:count sessionId=number:=by
  have hself:=(h sessionId).symm.trans hnumber
  split at hself
  · exact absurd hself (by simp)
  · exact Option.some.inj hself
 intro other
 beta_reduce
 by_cases hother:other=sessionId
 · subst hother
   rw [if_pos rfl,hcount]
   split
   · exact AList.lookup_erase _ _
   · exact AList.lookup_insert _
 · rw [if_neg hother,Nat.sub_zero]
   refine Eq.trans ?_ (h other)
   split
   · exact AList.lookup_erase_ne hother
   · exact AList.lookup_insert_ne hother

def leasesOn (leases:List Lease) (sessionId:String) : ℕ :=
 leases.countP fun lease=>sessionId=lease.sessionId

variable {lease:Lease}

theorem leasesOn_pos {leases:List Lease} (h:lease∈leases) : 0<leasesOn leases lease.sessionId :=
 List.countP_pos_iff.mpr ⟨lease,h,decide_eq_true rfl⟩

theorem leasesOn_cons (lease:Lease) (leases:List Lease) (sessionId:String) :
  leasesOn (lease::leases) sessionId = leasesOn leases sessionId+if sessionId=lease.sessionId then 1 else 0:=by
 unfold leasesOn
 rw [List.countP_cons]
 simp only [decide_eq_true_eq]

theorem leasesOn_erase {leases:List Lease} (h:lease∈leases) (sessionId:String) :
  leasesOn (leases.erase lease) sessionId = leasesOn leases sessionId-if sessionId=lease.sessionId then 1 else 0:=by
 have hperm:leasesOn leases sessionId=leasesOn (lease::leases.erase lease) sessionId :=
  (List.perm_cons_erase h).countP_eq _
 rw [hperm,leasesOn_cons]
 omega

/-- The pins count the leases, and what a lease was taken for is bound, unless the session
was reset since. -/
structure Guarded (world:World) : Prop where
 counted : PinsCount world.store.pins (leasesOn world.leases)
 bound : ∀ lease∈world.leases,lease.wasReset=false → Bound world.store lease.sessionId lease.conversationId

theorem Guarded.pinned (h:Guarded world) (hlease:lease∈world.leases) : world.store.pinned lease.sessionId=true:=by
 unfold Store.pinned
 rw [h.counted,if_neg (leasesOn_pos hlease).ne']
 rfl

theorem Guarded.keeps (h:Guarded before) (hkeeps:Keeps before after) : Guarded after:=by
 constructor
 · rw [hkeeps.pins,hkeeps.leases]
   exact h.counted
 · intro lease hlease hreset
   rw [hkeeps.leases] at hlease
   exact hkeeps.bound _ _ (h.pinned hlease) (h.bound lease hlease hreset)

theorem pin_guarded (h:Guarded world) (sessionId expected:String) (now:ℕ) :
  Guarded (pin world sessionId expected now):=by
 unfold pin
 split
 · exact h
 · rename_i entry hentry
   split
   · exact h
   · rename_i hid
     have hset:Keeps world (world.withStore (world.store.setEntry sessionId
       { entry with lastSeen := now })) := keeps_setEntry hentry rfl
     constructor
     · exact (pinsCount_insert h.counted sessionId).congr (leasesOn_cons _ _)
     · intro lease hlease hreset
       obtain rfl | hold:=List.mem_cons.mp hlease
       · exact ⟨_,AList.lookup_insert _,not_not.mp hid⟩
       · exact (h.keeps hset).bound lease hold hreset

theorem dropLease_guarded (h:Guarded world) (hlease:lease∈world.leases) : Guarded (dropLease world lease):=by
 have hpinned:=h.pinned hlease
 unfold dropLease
 dsimp only
 split
 · rename_i hnone
   unfold Store.pinned at hpinned
   rw [hnone] at hpinned
   exact absurd hpinned (by simp)
 · rename_i number hnumber
   constructor
   · exact (pinsCount_drop h.counted hnumber).congr (leasesOn_erase hlease)
   · exact fun other hother=>h.bound other (List.mem_of_mem_erase hother)

theorem reset_guarded (h:Guarded world) (sessionId:String) (now:ℕ) (fresh:String) :
  Guarded (reset world sessionId now fresh):=by
 have hmap:∀ other,other≠sessionId →
   (reset world sessionId now fresh).store.map.lookup other=world.store.map.lookup other:=by
  intro other hother
  unfold reset
  dsimp only
  split <;> exact AList.lookup_insert_ne hother
 have hpins:(reset world sessionId now fresh).store.pins=world.store.pins:=by
  unfold reset
  dsimp only
  split <;> rfl
 constructor
 · rw [hpins]
   refine h.counted.congr fun other=>?_
   unfold leasesOn reset
   rw [List.countP_map]
   refine List.countP_congr fun lease _=>?_
   dsimp only [Function.comp]
   split <;> rfl
 · intro lease hlease hreset
   obtain ⟨old,hold,rfl⟩:=List.mem_map.mp hlease
   split at hreset
   · exact absurd hreset (by simp)
   · rename_i hother
     rw [if_neg hother]
     obtain ⟨entry,hentry,hid⟩:=h.bound old hold hreset
     exact ⟨entry,(hmap _ hother).trans hentry,hid⟩

theorem takeLock_keeps (world:World) : Keeps world (takeLock world).1 := keeps_same rfl rfl

theorem runAction_guarded (env:ConversationEnv) (io:Io) (action:Action)
  {next:World} {more:List Action} (h:Guarded world)
  (hrun:runAction env io action world=some (next,more)) : Guarded next:=by
 have hnext:∀ {first:World} {rest:List Action},
   some (first,rest)=some (next,more) → Guarded first → Guarded next:=by
  intro first rest heq hfirst
  rw [← (Prod.mk.inj (Option.some.inj heq)).1]
  exact hfirst
 cases action with
 | flush=>
  simp only [runAction] at hrun
  split at hrun
  · exact hnext hrun h
  · split at hrun
    · exact absurd hrun (by simp)
    · exact hnext hrun (h.keeps (takeLock_keeps world))
 | lock=>
  simp only [runAction] at hrun
  split at hrun
  · exact absurd hrun (by simp)
  · exact hnext hrun (h.keeps (takeLock_keeps world))
 | delete pending=>exact hnext hrun (h.keeps (flushPending_keeps _ _ _ _))
 | unlock=>exact hnext hrun (h.keeps (keeps_same rfl rfl))
 | sweep now=>
  simp only [runAction] at hrun
  split at hrun
  · exact hnext hrun h
  · exact hnext hrun (h.keeps (keeps_same rfl rfl))
 | list now=>exact hnext hrun h
 | expire path now=>
  simp only [runAction] at hrun
  split at hrun
  · exact absurd hrun (by simp)
  · exact hnext hrun (h.keeps (expirePersisted_keeps _ _ _ _ _))
 | getOrCreate sessionId now fresh=>
  exact hnext hrun (h.keeps (getOrCreate_keeps env world sessionId now fresh))
 | get sessionId now=>exact hnext hrun (h.keeps (get_keeps env world sessionId now))
 | pin sessionId expected now=>exact hnext hrun (pin_guarded h sessionId expected now)
 | dropLease lease=>
  simp only [runAction] at hrun
  split at hrun
  · rename_i hlease
    exact hnext hrun (dropLease_guarded h hlease)
  · exact absurd hrun (by simp)
 | reset sessionId now fresh=>exact hnext hrun (reset_guarded h sessionId now fresh)
 | normalize sessionId expected now fresh=>
  simp only [runAction] at hrun
  split at hrun
  · rename_i hnormal
    exact hnext hrun (h.keeps (normalizeKvStore_keeps hnormal))
  · exact hnext hrun h
 | save sessionId checkpoint now fresh=>
  exact hnext hrun (h.keeps ((ensureEntry_keeps world sessionId now fresh).trans
   (updateEntry_keeps now (replaceCheckpoint_named _))))
 | clear sessionId now=>
  exact hnext hrun (h.keeps (updateEntry_keeps now (replaceCheckpoint_named _)))
 | merge sessionId blobs now fresh=>
  exact hnext hrun (h.keeps ((ensureEntry_keeps world sessionId now fresh).trans
   (updateEntry_keeps now (mergeInto_named blobs))))
 | saveIfCurrent sessionId expected checkpoint now=>
  exact hnext hrun (h.keeps (changed_keeps now (replaceCheckpoint_named _)))
 | clearIfCurrent sessionId expected now=>
  exact hnext hrun (h.keeps (changed_keeps now (replaceCheckpoint_named _)))
 | mergeIfCurrent sessionId expected blobs now=>
  exact hnext hrun (h.keeps (changed_keeps now (mergeInto_named blobs)))
 | persist sessionId=>
  simp only [runAction] at hrun
  split at hrun
  · exact hnext hrun h
  · exact hnext hrun (h.keeps (keeps_same rfl rfl))
 | persistIfCurrent sessionId expected undo=>
  simp only [runAction] at hrun
  split at hrun
  · split at hrun
    · exact hnext hrun (h.keeps (keeps_same rfl rfl))
    · exact hnext hrun h
  · exact hnext hrun (h.keeps (keeps_same rfl rfl))
 | write sessionId snapshot=>
  exact hnext hrun (h.keeps (persistConversationUnlocked_keeps env io world sessionId snapshot))
 | writeIfCurrent sessionId expected snapshot undo=>
  exact hnext hrun (h.keeps (persistConversationUnlocked_keeps env io world sessionId snapshot))
 | rollBack sessionId expected undo=>exact hnext hrun (h.keeps (rollBack_keeps _ _ _ _))

/-- The id that a section of a `*_if_current` call expects of the session. -/
def expectation : Action → Option (String×String)
 | .saveIfCurrent sessionId expected _ _ | .clearIfCurrent sessionId expected _
 | .mergeIfCurrent sessionId expected _ _ | .persistIfCurrent sessionId expected _
 | .rollBack sessionId expected _=>some (sessionId,expected)
 | _=>none

theorem changed_stale (h:¬Bound world.store sessionId expected) (now:ℕ) (change:Change) :
  changed world sessionId expected (updateIfCurrent world sessionId expected now change) = (world,[]):=by
 unfold updateIfCurrent
 split
 · rfl
 · rename_i entry hentry
   rw [if_pos fun hid=>h ⟨entry,hentry,hid⟩]
   rfl

theorem stale_idle (env:ConversationEnv) (io:Io) {action:Action} (haction:expectation action=some (sessionId,expected))
  (h:¬Bound world.store sessionId expected) :
  ∃ locked,runAction env io action world=some ({ world with writeLocked := locked },[]):=by
 have hstale:∀ entry,world.store.map.lookup sessionId=some entry →
   entry.conversationId≠expected := fun entry hentry hid=>h ⟨entry,hentry,hid⟩
 cases action with
 | saveIfCurrent | clearIfCurrent | mergeIfCurrent=>
  obtain ⟨rfl,rfl⟩:=Prod.mk.inj (Option.some.inj haction)
  exact ⟨world.writeLocked,congrArg some (changed_stale h _ _)⟩
 | persistIfCurrent=>
  obtain ⟨rfl,rfl⟩:=Prod.mk.inj (Option.some.inj haction)
  refine ⟨false,?_⟩
  simp only [runAction]
  split
  · rename_i current hcurrent
    rw [if_pos (hstale current hcurrent)]
    rfl
  · rfl
 | rollBack=>
  obtain ⟨rfl,rfl⟩:=Prod.mk.inj (Option.some.inj haction)
  refine ⟨world.writeLocked,?_⟩
  simp only [runAction,rollBack]
  split
  · rfl
  · rename_i entry hentry
    rw [if_neg (hstale entry hentry)]
 | _=>exact absurd haction (by simp [expectation])

/-- What a `*_if_current` call writes is a snapshot with the id that it expects. -/
def WritesOwn : Action → Prop
 | .writeIfCurrent _ expected snapshot _=>snapshot.conversationId=expected
 | _=>True

theorem sections_writeOwn (call:Call) : ∀ action∈call.sections,WritesOwn action:=by
 have hnil:∀ action∈([] : List Action),WritesOwn action :=
  fun _ haction=>absurd haction List.not_mem_nil
 cases call with
 | saveCheckpoint | mergeBlobs | saveCheckpointIfCurrent | mergeBlobsIfCurrent=>
  simp only [Call.sections]
  split
  · exact hnil
  · exact List.forall_mem_singleton.mpr trivial
 | _=>simp [Call.sections,WritesOwn]

theorem persist_writesOwn (sessionId:String) : ∀ action∈persistConversation sessionId,WritesOwn action:=by
 simp [persistConversation,WritesOwn]

theorem takeLock_writesOwn (world:World) : ∀ action∈(takeLock world).2,WritesOwn action:=by
 intro action haction
 obtain ⟨pending,_,rfl⟩:=List.mem_map.mp haction
 trivial

theorem changed_writesOwn (sessionId expected:String) (update:Option (World×Undo)) :
  ∀ action∈(changed world sessionId expected update).2,WritesOwn action:=by
 cases update with
 | none=>exact fun _ haction=>absurd haction List.not_mem_nil
 | some update=>simp [changed,persistConversationIfCurrent,WritesOwn]

theorem runAction_writesOwn (env:ConversationEnv) (io:Io) (action:Action)
  {next:World} {more:List Action} (hrun:runAction env io action world=some (next,more)) :
  ∀ action∈more,WritesOwn action:=by
 have hmore:∀ {first:World} {rest:List Action},some (first,rest)=some (next,more) →
   (∀ action∈rest,WritesOwn action) → ∀ action∈more,WritesOwn action:=by
  intro first rest heq hrest
  rw [← (Prod.mk.inj (Option.some.inj heq)).2]
  exact hrest
 have hnil:∀ action∈([] : List Action),WritesOwn action :=
  fun _ haction=>absurd haction List.not_mem_nil
 cases action with
 | flush=>
  simp only [runAction] at hrun
  split at hrun
  · exact hmore hrun hnil
  · split at hrun
    · exact absurd hrun (by simp)
    · refine hmore hrun fun action haction=>?_
      obtain htaken | hlast:=List.mem_append.mp haction
      · exact takeLock_writesOwn world action htaken
      · rw [List.mem_singleton.mp hlast]
        trivial
 | lock=>
  simp only [runAction] at hrun
  split at hrun
  · exact absurd hrun (by simp)
  · exact hmore hrun (takeLock_writesOwn world)
 | sweep now=>
  simp only [runAction] at hrun
  split at hrun
  · exact hmore hrun hnil
  · exact hmore hrun (by simp [WritesOwn])
 | list now=>
  refine hmore hrun fun action haction=>?_
  obtain ⟨path,_,rfl⟩:=List.mem_map.mp haction
  trivial
 | expire | dropLease=>
  simp only [runAction] at hrun
  split at hrun
  · first | exact hmore hrun hnil | exact absurd hrun (by simp)
  · first | exact hmore hrun hnil | exact absurd hrun (by simp)
 | getOrCreate sessionId now fresh=>
  refine hmore hrun fun action haction=>?_
  obtain rfl | hrest:=List.mem_cons.mp haction
  · trivial
  · split at hrest
    · exact persist_writesOwn sessionId action hrest
    · exact absurd hrest List.not_mem_nil
 | get=>exact hmore hrun (by simp [WritesOwn])
 | reset sessionId | save sessionId | merge sessionId=>
  exact hmore hrun (persist_writesOwn sessionId)
 | normalize sessionId=>
  simp only [runAction] at hrun
  split at hrun
  · exact hmore hrun (persist_writesOwn sessionId)
  · exact hmore hrun hnil
 | clear sessionId=>
  refine hmore hrun fun action haction=>?_
  split at haction
  · exact persist_writesOwn sessionId action haction
  · exact absurd haction List.not_mem_nil
 | saveIfCurrent | clearIfCurrent | mergeIfCurrent=>
  exact hmore hrun (changed_writesOwn _ _ _)
 | persist=>
  simp only [runAction] at hrun
  split at hrun
  · exact hmore hrun (by simp [WritesOwn])
  · exact hmore hrun hnil
 | persistIfCurrent=>
  simp only [runAction] at hrun
  split at hrun
  · split at hrun
    · exact hmore hrun hnil
    · rename_i hid
      exact hmore hrun (List.forall_mem_singleton.mpr (not_not.mp hid))
  · exact hmore hrun hnil
 | writeIfCurrent sessionId _ snapshot=>
  simp only [runAction] at hrun
  generalize persistConversationUnlocked env io world sessionId snapshot=outcome at hrun
  refine hmore hrun fun action haction=>?_
  split at haction
  · rw [List.mem_singleton.mp haction]
    trivial
  · exact absurd haction List.not_mem_nil
 | delete | unlock | pin | write | rollBack=>exact hmore hrun hnil

/-- No lease is held, nothing is pinned, and no call has begun. -/
structure Initial (config:Config World Action) : Prop where
 leases : config.shared.leases=[]
 pins : config.shared.store.pins=∅
 calls : config.calls=∅

theorem initial_guarded {config:Config World Action} (h:Initial config) : Guarded config.shared:=by
 constructor
 · intro sessionId
   rw [h.leases,h.pins]
   rfl
 · intro lease hlease
   rw [h.leases] at hlease
   exact absurd hlease List.not_mem_nil

/-- While a lease is held and its session is not reset, the store keeps its binding under
its id. Where a section of a `*_if_current` call finds another id than the expected one, or
none, it changes neither memory nor files and ends its call; and such a call writes no
snapshot of another conversation. -/
theorem pinned_kept_stale_idle (env:ConversationEnv) (start config:Config World Action)
    (events:List (Event Call Io)) (hstart:Initial start) (hrun:Run (conversations env) start events config) :
    (∀ lease∈config.shared.leases,lease.wasReset=false →
      ∃ entry,config.shared.store.map.lookup lease.sessionId=some entry ∧ entry.conversationId=lease.conversationId) ∧
    (∀ call io action rest next sessionId expected,config.calls.lookup call=some (action::rest) →
      expectation action=some (sessionId,expected) →
      (∀ entry,config.shared.store.map.lookup sessionId=some entry → entry.conversationId≠expected) →
      config.step (conversations env) (.run call io)=some next →
        next.shared={ config.shared with writeLocked := next.shared.writeLocked } ∧
          next.calls.lookup call=some rest) ∧
    ∀ call actions sessionId expected snapshot undo,config.calls.lookup call=some actions →
      .writeIfCurrent sessionId expected snapshot undo∈actions → snapshot.conversationId=expected:=by
  refine ⟨?_,?_,?_⟩
  · have hguarded:Guarded config.shared :=
      shared_invariant (fun io action _ _ _ h=>runAction_guarded env io action h) hrun
        (initial_guarded hstart)
    exact hguarded.bound
  · intro call io action rest next sessionId expected hcall haction hstale hstep
    obtain ⟨action',rest',shared,more,hcall',hsection,rfl⟩:=step_run hstep
    obtain ⟨rfl,rfl⟩:=List.cons.inj (Option.some.inj (hcall.symm.trans hcall'))
    obtain ⟨locked,hidle⟩:=stale_idle env io haction
      fun ⟨entry,hentry,hid⟩=>hstale entry hentry hid
    obtain ⟨rfl,rfl⟩:=Prod.mk.inj (Option.some.inj (hsection.symm.trans hidle))
    exact ⟨rfl,AList.lookup_insert _⟩
  · intro call actions sessionId expected snapshot undo hcall hwrite
    refine all_invariant hrun sections_writeOwn
      (fun io action _ _ _ _=>runAction_writesOwn env io action) ?_ call actions hcall _ hwrite
    unfold Config.All
    rw [hstart.calls]
    exact fun _ _ hnone=>absurd hnone (by simp)

/-! A session is pinned, and a driver of another conversation tries to save. -/

def noFilesEnv : ConversationEnv where
 persistPath := fun _=>none
 toVec := fun _=>[]
 fromSlice := fun _=>none
 b64Encode := fun _=>""
 b64Decode := fun _=>none

def emptyWorld : World where
 store := ⟨∅,[],∅⟩
 pendingPersistDeletes := []
 files := ∅
 writeLocked := false
 lastPersistedSweepMs := 0
 leases := []
 written := ∅

def stillIo : Io := ⟨.saved,true,none⟩

def pinnedWorld : World :=
 { emptyWorld with
   store :=
    { map := (∅ : AList fun _ : String=>CursorConversation).insert "session"
       ⟨"conversation",some [1],∅,6⟩
      order := ["session"]
      pins := (∅ : AList fun _ : String=>ℕ).insert "session" 1 }
   leases := [⟨"session","conversation",false⟩] }

def pinnedCalls : List (Sigma fun _:ℕ=>List Action) :=
 [⟨2,[.saveIfCurrent "session" "other" [2] 7]⟩,⟨1,[]⟩,⟨0,persistConversation "session"⟩]

def pinnedConfig : Config World Action := ⟨pinnedWorld,pinnedCalls.toAList⟩

def pinnedEvents : List (Event Call Io) :=
 [.start 0 (.saveCheckpoint "session" [1] 5 "conversation"),.run 0 stillIo,
  .start 1 (.pin "session" "conversation" 6),.run 1 stillIo,
  .start 2 (.saveCheckpointIfCurrent "session" "other" [2] 7)]

theorem pinned_kept_stale_idle_pinned :
    (∃ entry,pinnedWorld.store.map.lookup "session" = some entry ∧ entry.conversationId = "conversation") ∧
    (∀ next,pinnedConfig.step (conversations noFilesEnv) (.run 2 stillIo)=some next →
      next.shared={ pinnedWorld with writeLocked := next.shared.writeLocked }):=by
  obtain ⟨hkept,hidle,_⟩:=pinned_kept_stale_idle noFilesEnv ⟨emptyWorld,∅⟩ pinnedConfig
    pinnedEvents ⟨rfl,rfl,rfl⟩ (Traces.perform_trace (by rfl))
  refine ⟨hkept ⟨"session","conversation",false⟩ List.mem_cons_self rfl,fun next hnext=>?_⟩
  refine (hidle 2 stillIo _ [] next "session" "other" rfl rfl (fun entry hentry=>?_) hnext).1
  rw [← Option.some.inj hentry]
  decide

end CursorProxy.ConversationPins
