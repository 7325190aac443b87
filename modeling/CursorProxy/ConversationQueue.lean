import CursorProxy.ConversationPins
import CursorProxy.KeyedEntries

/-! Every section keeps the order of eviction in step with the map: each session of the map
stands in it once, and no other does. A lookup may put its own session out while it makes room,
and this is when it does. -/
namespace CursorProxy.ConversationQueue
open Traces AtomicSections ConversationModel ConversationPins

/-- The sessions of the map, each of them once. -/
structure Mirrors (store:Store) : Prop where
 nodup : store.order.Nodup
 mem : ∀ key,key∈store.order ↔ key∈store.map

variable {world after:World} {store:Store} {sessionId:String}

theorem Mirrors.same (h:Mirrors world.store) (hstore:after.store=world.store) : Mirrors after.store := hstore ▸ h

variable {entry:CursorConversation}

theorem mirrors_setEntry (h:Mirrors store) (hsession:sessionId∈store.map)
 : Mirrors (store.setEntry sessionId entry):=by
 refine ⟨h.nodup,fun key=>?_⟩
 change key∈store.order ↔ key∈store.map.insert sessionId entry
 rw [AList.mem_insert,h.mem]
 constructor
 · exact Or.inr
 · rintro (rfl | hkey)
   · exact hsession
   · exact hkey

theorem mirrors_addEntry (h:Mirrors store) (hsession:sessionId ∉ store.map)
 : Mirrors (store.addEntry sessionId entry):=by
 constructor
 · change (store.order++[sessionId]).Nodup
   rw [List.nodup_append]
   refine ⟨h.nodup,List.nodup_singleton _,fun key hkey other hother=>?_⟩
   rw [List.mem_singleton.mp hother]
   rintro rfl
   exact hsession ((h.mem key).mp hkey)
 · intro key
   change key∈store.order++[sessionId] ↔ key∈store.map.insert sessionId entry
   rw [AList.mem_insert,List.mem_append,List.mem_singleton,h.mem,or_comm]

theorem mirrors_erase {order:List String} (h:Mirrors store) (hnodup:order.Nodup)
 (hmem:∀ key,key∈order ↔ key∈store.order ∧ key≠sessionId) :
 Mirrors { store with
  map := store.map.erase sessionId
  order := order }:=by
 refine ⟨hnodup,fun key=>?_⟩
 change key∈order ↔ key∈store.map.erase sessionId
 rw [AList.mem_erase,hmem,h.mem,and_comm]

theorem removeEntry_mirrors (h:Mirrors world.store) (sessionId:String) :
 Mirrors (world.removeEntry sessionId).store:=by
 unfold World.removeEntry
 rw [queued_store]
 refine mirrors_erase h (h.nodup.filter _) fun key=>?_
 rw [List.mem_filter,decide_eq_true_eq]

theorem touch_mirrors (h:Mirrors store) (sessionId:String) (now:ℕ) : Mirrors (World.touch store sessionId now):=by
 unfold World.touch
 split
 · rename_i entry hentry
   exact mirrors_setEntry h (AList.lookup_isSome.mp (Option.isSome_of_eq_some hentry))
 · exact h

theorem rotate_mirrors {evict:String} {rest:List String} (h:Mirrors store)
 (horder:store.order=evict::rest) : Mirrors { store with order := rest++[evict] }:=by
 have hnodup:=h.nodup
 rw [horder] at hnodup
 constructor
 · change (rest++[evict]).Nodup
   rw [List.nodup_append_comm]
   exact hnodup
 · intro key
   change key∈rest++[evict] ↔ key∈store.map
   rw [← h.mem,horder,List.mem_append,List.mem_singleton,List.mem_cons,or_comm]

theorem putOut_mirrors {evict:String} {rest:List String} (h:Mirrors store) (horder:store.order=evict::rest) :
 Mirrors { store with
  map := store.map.erase evict
  order := rest }:=by
 have hnodup:=h.nodup
 rw [horder,List.nodup_cons] at hnodup
 refine mirrors_erase h hnodup.2 fun key=>?_
 rw [horder,List.mem_cons]
 constructor
 · intro hkey
   exact ⟨.inr hkey,fun heq=>hnodup.1 (heq ▸ hkey)⟩
 · rintro ⟨rfl | hkey,hne⟩
   · exact absurd rfl hne
   · exact hkey

theorem evictOldest_mirrors (remaining:ℕ) :
 ∀ world:World,Mirrors world.store → Mirrors (World.evictOldest remaining world).store:=by
 induction remaining with
 | zero=>exact fun _ h=>h
 | succ remaining ih=>
  intro world h
  unfold World.evictOldest
  split
  · split
    · exact h
    · rename_i evict rest horder
      split
      · exact ih _ (rotate_mirrors h horder)
      · exact ih _ ((putOut_mirrors h horder).same (queued_store _ _ _))
  · exact h

theorem removeAll_mirrors (sessionId:String) (keys:List String) :
 ∀ world:World,Mirrors world.store →
  Mirrors (keys.foldl (fun world key=>if key=sessionId then world else world.removeEntry key)
   world).store:=by
 induction keys with
 | nil=>exact fun _ h=>h
 | cons key keys ih=>
  intro world h
  have hone:Mirrors (if key=sessionId then world else world.removeEntry key).store:=by
   split
   · exact h
   · exact removeEntry_mirrors h key
  exact ih _ hone

theorem touchAndEvict_mirrors (h:Mirrors world.store) (sessionId:String) (now:ℕ) :
 Mirrors (world.touchAndEvict sessionId now).store :=
 removeAll_mirrors _ _ _ (evictOldest_mirrors _ _ (touch_mirrors h sessionId now))

variable {now:ℕ}

theorem adopt_mirrors {disk:CursorConversation} (h:Mirrors world.store)
 (habsent:sessionId ∉ world.store.map) : Mirrors (adopt world sessionId disk now).store :=
 touchAndEvict_mirrors (mirrors_addEntry h habsent) _ _

variable {fresh:String}

theorem createEntry_mirrors (h:Mirrors world.store) (habsent:sessionId ∉ world.store.map) :
 Mirrors (createEntry world sessionId now fresh).world.store := adopt_mirrors h habsent

theorem removeEntry_absent (world:World) (sessionId:String) : sessionId ∉ (world.removeEntry sessionId).store.map:=by
 unfold World.removeEntry
 rw [queued_store]
 exact fun h=>(AList.mem_erase.mp h).1 rfl

theorem getOrCreate_mirrors (env:ConversationEnv) (h:Mirrors world.store) (sessionId:String)
 (now:ℕ) (fresh:String) : Mirrors (getOrCreate env world sessionId now fresh).world.store:=by
 unfold getOrCreate
 split
 · split
   · exact createEntry_mirrors (removeEntry_mirrors h _) (removeEntry_absent _ _)
   · exact touchAndEvict_mirrors h _ _
 · rename_i hnone
   have habsent:sessionId ∉ world.store.map:=AList.lookup_eq_none.mp hnone
   split
   · split
     · exact adopt_mirrors h habsent
     · have hqueued:=queued_store world sessionId none
       exact createEntry_mirrors (h.same hqueued) (hqueued ▸ habsent)
   · exact createEntry_mirrors h habsent

theorem get_mirrors (env:ConversationEnv) (h:Mirrors world.store) (sessionId:String)
 (now:ℕ) : Mirrors (get env world sessionId now).1.store:=by
 unfold ConversationModel.get
 split
 · split
   · exact removeEntry_mirrors h _
   · exact touchAndEvict_mirrors h _ _
 · rename_i hnone
   split
   · exact h
   · split
     · exact h.same (queued_store _ _ _)
     · exact adopt_mirrors h (AList.lookup_eq_none.mp hnone)

theorem pin_mirrors (h:Mirrors world.store) (sessionId expected:String) (now:ℕ) :
 Mirrors (pin world sessionId expected now).store:=by
 unfold pin
 split
 · exact h
 · rename_i entry hentry
   split
   · exact h
   · have hset:Mirrors (world.store.setEntry sessionId { entry with lastSeen:=now }) :=
      mirrors_setEntry h (AList.lookup_isSome.mp (Option.isSome_of_eq_some hentry))
     exact ⟨hset.nodup,hset.mem⟩

theorem dropLease_mirrors (h:Mirrors world.store) (lease:Lease) : Mirrors (dropLease world lease).store:=by
 unfold dropLease
 dsimp only
 split
 · exact h
 · exact ⟨h.nodup,h.mem⟩

theorem setChanged_mirrors (h:Mirrors world.store) (hsession:sessionId∈world.store.map) (now:ℕ) :
 Mirrors (setChanged world sessionId entry now).store :=
 touchAndEvict_mirrors (mirrors_setEntry h hsession) _ _

theorem updateEntry_mirrors (h:Mirrors world.store) (sessionId:String) (now:ℕ)
 (change:Change) : Mirrors (updateEntry world sessionId now change).store:=by
 unfold updateEntry
 split
 · exact h
 · rename_i entry hentry
   exact setChanged_mirrors h (AList.lookup_isSome.mp (Option.isSome_of_eq_some hentry)) now

theorem changed_mirrors (h:Mirrors world.store) (sessionId expected:String) (now:ℕ) (change:Change) :
 Mirrors (changed world sessionId expected (updateIfCurrent world sessionId expected now change)).1.store:=by
 unfold updateIfCurrent
 split
 · exact h
 · rename_i entry hentry
   split
   · exact h
   · exact setChanged_mirrors h (AList.lookup_isSome.mp (Option.isSome_of_eq_some hentry)) now

theorem ensureEntry_mirrors (h:Mirrors store) (sessionId:String) (now:ℕ) (fresh:String) :
 Mirrors (ensureEntry store sessionId now fresh):=by
 unfold ensureEntry
 split
 · exact h
 · rename_i habsent
   exact mirrors_addEntry h habsent

theorem reset_mirrors (h:Mirrors world.store) (sessionId:String) (now:ℕ) (fresh:String) :
 Mirrors (reset world sessionId now fresh).store:=by
 unfold reset
 dsimp only
 split
 · rename_i hsession
   exact mirrors_setEntry h ((h.mem sessionId).mp hsession)
 · rename_i habsent
   exact mirrors_addEntry h fun hsession=>habsent ((h.mem sessionId).mpr hsession)

theorem normalizeKvStore_mirrors {expected:String} (h:Mirrors world.store)
 (hnormal:normalizeKvStore world sessionId expected now fresh=some after) : Mirrors after.store:=by
 obtain ⟨entry,hentry,hresult⟩:=Option.bind_eq_some_iff.mp hnormal
 split at hresult
 · exact absurd hresult (by simp)
 · obtain rfl:=Option.some.inj hresult
   exact mirrors_setEntry h (AList.lookup_isSome.mp (Option.isSome_of_eq_some hentry))

theorem rollBack_mirrors (h:Mirrors world.store) (sessionId expected:String) (undo:Undo) :
 Mirrors (rollBack world sessionId expected undo).store:=by
 unfold rollBack
 split
 · exact h
 · rename_i entry hentry
   split
   · exact mirrors_setEntry h (AList.lookup_isSome.mp (Option.isSome_of_eq_some hentry))
   · exact h

theorem removeFile_store (io:Io) (world:World) (path:String) : (removeFile io world path).store=world.store:=by
 unfold removeFile
 split <;> rfl

theorem flushPending_store (env:ConversationEnv) (io:Io) (world:World)
 (pending:PendingPersistDelete) : (flushPending env io world pending).store=world.store:=by
 unfold flushPending
 split
 · split
   · exact removeFile_store _ _ _
   · rfl
 · rfl

theorem expirePersisted_store (env:ConversationEnv) (io:Io) (world:World) (path:String)
 (now:ℕ) : (expirePersisted env io world path now).store=world.store:=by
 unfold expirePersisted
 split
 · rfl
 · dsimp only
   split <;> split <;> first | exact removeFile_store _ _ _ | rfl

variable {next:World} {more:List Action}

theorem runAction_mirrors (env:ConversationEnv) (io:Io) (action:Action)
 (h:Mirrors world.store) (hrun:runAction env io action world=some (next,more)) : Mirrors next.store:=by
 have hnext:∀ {first:World} {rest:List Action},
  some (first,rest)=some (next,more) → Mirrors first.store → Mirrors next.store:=by
  intro first rest heq hfirst
  rw [← (Prod.mk.inj (Option.some.inj heq)).1]
  exact hfirst
 have hwritten:∀ sessionId snapshot,
  Mirrors (release (persistConversationUnlocked env io world sessionId snapshot).1).store :=
  fun sessionId snapshot=>
   h.same (persistConversationUnlocked_spec env io world sessionId snapshot).1
 cases action with
 | flush=>
  simp only [runAction] at hrun
  split at hrun
  · exact hnext hrun h
  · split at hrun
    · exact absurd hrun (by simp)
    · exact hnext hrun h
 | lock=>
  simp only [runAction] at hrun
  split at hrun
  · exact absurd hrun (by simp)
  · exact hnext hrun h
 | delete pending=>exact hnext hrun (h.same (flushPending_store _ _ _ _))
 | unlock=>exact hnext hrun h
 | sweep now=>
  simp only [runAction] at hrun
  split at hrun
  · exact hnext hrun h
  · exact hnext hrun h
 | list now=>exact hnext hrun h
 | expire path now=>
  simp only [runAction] at hrun
  split at hrun
  · exact absurd hrun (by simp)
  · exact hnext hrun (h.same (expirePersisted_store _ _ _ _ _))
 | getOrCreate sessionId now fresh=>
  exact hnext hrun (getOrCreate_mirrors env h sessionId now fresh)
 | get sessionId now=>exact hnext hrun (get_mirrors env h sessionId now)
 | pin sessionId expected now=>exact hnext hrun (pin_mirrors h sessionId expected now)
 | dropLease lease=>
  simp only [runAction] at hrun
  split at hrun
  · exact hnext hrun (dropLease_mirrors h lease)
  · exact absurd hrun (by simp)
 | reset sessionId now fresh=>exact hnext hrun (reset_mirrors h sessionId now fresh)
 | normalize sessionId expected now fresh=>
  simp only [runAction] at hrun
  split at hrun
  · rename_i hnormal
    exact hnext hrun (normalizeKvStore_mirrors h hnormal)
  · exact hnext hrun h
 | save sessionId checkpoint now fresh=>
  exact hnext hrun (updateEntry_mirrors (ensureEntry_mirrors h sessionId now fresh) _ _ _)
 | clear sessionId now=>exact hnext hrun (updateEntry_mirrors h _ _ _)
 | merge sessionId blobs now fresh=>
  exact hnext hrun (updateEntry_mirrors (ensureEntry_mirrors h sessionId now fresh) _ _ _)
 | saveIfCurrent | clearIfCurrent | mergeIfCurrent=>
  exact hnext hrun (changed_mirrors h _ _ _ _)
 | persist sessionId=>
  simp only [runAction] at hrun
  split at hrun
  · exact hnext hrun h
  · exact hnext hrun h
 | persistIfCurrent sessionId expected undo=>
  simp only [runAction] at hrun
  split at hrun
  · split at hrun
    · exact hnext hrun h
    · exact hnext hrun h
  · exact hnext hrun h
 | write sessionId snapshot=>exact hnext hrun (hwritten sessionId snapshot)
 | writeIfCurrent sessionId expected snapshot undo=>
  exact hnext hrun (hwritten sessionId snapshot)
 | rollBack sessionId expected undo=>exact hnext hrun (rollBack_mirrors h _ _ _)

/-- The store holds the binding under the session, touched or not. -/
def Returns (store:Store) (sessionId:String) (conv:CursorConversation) : Prop :=
 ∃ stored,store.map.lookup sessionId=some stored ∧
  stored.conversationId=conv.conversationId ∧ stored.checkpoint=conv.checkpoint ∧ stored.blobs=conv.blobs

def unpinnedOf (store:Store) (keys:List String) : ℕ := keys.countP fun key=>!store.pinned key

/-- The sessions that are evicted before the one looked up: those in front of it, or all
the others where its entry is a new one. -/
def inFront (store:Store) (sessionId:String) (now:ℕ) : List String :=
 if (store.map.lookup sessionId).any fun existing=>!store.expired sessionId existing now then
  store.order.takeWhile (· ≠ sessionId)
 else store.order.filter (· ≠ sessionId)

/-- It is pinned, or enough of those in front of it are not. -/
def Stays (store:Store) (sessionId:String) (now:ℕ) : Prop :=
 store.pinned sessionId=true ∨
  (store.map.erase sessionId).keys.length+1 ≤ maxConversations+unpinnedOf store (inFront store sessionId now)

theorem lookup_erase_none {key:String} (h:store.map.lookup sessionId=none) :
 (store.map.erase key).lookup sessionId=none:=by
 by_cases hkey:sessionId=key
 · subst hkey
   exact AList.lookup_erase _ _
 · rw [AList.lookup_erase_ne hkey,h]

theorem evictOldest_lookup_none (remaining:ℕ) :
 ∀ world:World,world.store.map.lookup sessionId=none →
  (World.evictOldest remaining world).store.map.lookup sessionId=none:=by
 induction remaining with
 | zero=>exact fun _ h=>h
 | succ remaining ih=>
  intro world h
  unfold World.evictOldest
  split
  · split
    · exact h
    · split
      · exact ih _ h
      · refine ih _ ?_
        rw [queued_store]
        exact lookup_erase_none h
  · exact h

theorem evictOldest_lookup_pinned (remaining:ℕ) :
 ∀ world:World,world.store.pinned sessionId=true →
  (World.evictOldest remaining world).store.map.lookup sessionId = world.store.map.lookup sessionId:=by
 induction remaining with
 | zero=>exact fun _ _=>rfl
 | succ remaining ih=>
  intro world h
  unfold World.evictOldest
  split
  · split
    · rfl
    · rename_i evict rest horder
      split
      · exact ih _ h
      · rename_i hpinned
        have hne:sessionId≠evict:=fun heq=>hpinned (heq ▸ h)
        refine (ih _ ?_).trans ?_
        · rw [queued_store]
          exact h
        · rw [queued_store]
          exact AList.lookup_erase_ne hne
  · rfl

theorem evictOldest_lookup (front:List String) :
 ∀ (world:World) (tail:List String),Mirrors world.store →
  world.store.order=front++tail → sessionId∈front → world.store.pinned sessionId=false →
  (World.evictOldest front.length world).store.map.lookup sessionId =
   if world.store.map.keys.length ≤
    maxConversations+unpinnedOf world.store (front.takeWhile (· ≠ sessionId)) then
    world.store.map.lookup sessionId
   else none:=by
 induction front with
 | nil=>exact fun _ _ _ _ hmem=>absurd hmem List.not_mem_nil
 | cons evict front ih=>
  intro world tail h horder hmem hfree
  rw [List.length_cons]
  unfold World.evictOldest
  split
  · rename_i hfull
    have hcons:world.store.order=evict::(front++tail):=horder
    split
    · rename_i hnil
      rw [hcons] at hnil
      exact absurd hnil (by simp)
    · rename_i found rest hfound
      obtain ⟨rfl,rfl⟩:=List.cons.inj (hcons.symm.trans hfound)
      by_cases hself:evict=sessionId
      · subst hself
        rw [if_neg (Bool.eq_false_iff.mp hfree),List.takeWhile_cons_of_neg (by simp)]
        have hnone:unpinnedOf world.store []=0:=rfl
        rw [hnone,Nat.add_zero,if_neg (Nat.not_le.mpr hfull)]
        refine evictOldest_lookup_none _ _ ?_
        rw [queued_store]
        exact AList.lookup_erase _ _
      · have hrest:sessionId∈front:=(List.mem_cons.mp hmem).resolve_left (Ne.symm hself)
        rw [List.takeWhile_cons_of_pos (by simpa using hself)]
        split
        · rename_i hpinned
          have hskip:unpinnedOf world.store (evict::front.takeWhile (· ≠ sessionId)) =
           unpinnedOf world.store (front.takeWhile (· ≠ sessionId)) :=
           List.countP_cons_of_neg (by simp [hpinned])
          rw [hskip]
          refine ih _ (tail++[evict]) (rotate_mirrors h hcons) ?_ hrest hfree
          exact List.append_assoc _ _ _
        · rename_i hpinned
          have hcount:unpinnedOf world.store (evict::front.takeWhile (· ≠ sessionId)) =
           unpinnedOf world.store (front.takeWhile (· ≠ sessionId))+1 :=
           List.countP_cons_of_pos (by simp [hpinned])
          have hmapped:evict∈world.store.map:=(h.mem evict).mp (hcons ▸ List.mem_cons_self)
          obtain ⟨entry,hentry⟩:=Option.isSome_iff_exists.mp (AList.lookup_isSome.mpr hmapped)
          have hlength:=KeyedEntries.length_erase hentry
          have hqueued:=queued_store (world.withStore { world.store with
           map := world.store.map.erase evict
           order := front++tail }) evict (world.store.map.lookup evict)
          have hnext:=ih _ tail ((putOut_mirrors h hcons).same hqueued)
           (by rw [hqueued]; rfl) hrest (by rw [hqueued]; exact hfree)
          rw [hnext,hqueued,hcount]
          change (if (world.store.map.erase evict).keys.length ≤ maxConversations +
           unpinnedOf world.store (front.takeWhile (· ≠ sessionId)) then
           (world.store.map.erase evict).lookup sessionId else none)=_
          rw [AList.lookup_erase_ne (Ne.symm hself)]
          refine if_congr ?_ rfl rfl
          omega
  · rename_i hroom
    rw [if_pos (by omega)]

theorem removeAll_lookup (sessionId:String) (keys:List String) :
 ∀ world:World,(keys.foldl (fun world key=>if key=sessionId then world else world.removeEntry key)
  world).store.map.lookup sessionId=world.store.map.lookup sessionId:=by
 induction keys with
 | nil=>exact fun _=>rfl
 | cons key keys ih=>
  intro world
  have hone:(if key=sessionId then world else world.removeEntry key).store.map.lookup
   sessionId=world.store.map.lookup sessionId:=by
   split
   · rfl
   · rename_i hother
     unfold World.removeEntry
     rw [queued_store]
     exact AList.lookup_erase_ne (Ne.symm hother)
  exact (ih _).trans hone

theorem touch_store (now:ℕ) (hentry:store.map.lookup sessionId=some entry) :
 World.touch store sessionId now=store.setEntry sessionId { entry with lastSeen := now }:=by
 unfold World.touch
 rw [hentry]

/-- The session is pinned, or enough of those in front of it in the order are not. -/
def Spared (store:Store) (sessionId:String) : Prop :=
 store.pinned sessionId=true ∨ store.map.keys.length ≤
  maxConversations+unpinnedOf store (store.order.takeWhile (· ≠ sessionId))

theorem evictAll_spared (h:Mirrors world.store) (hspared:Spared world.store sessionId)
 (hmem:sessionId∈world.store.map) :
 (World.evictOldest world.store.order.length world).store.map.lookup sessionId =
  world.store.map.lookup sessionId:=by
 by_cases hpinned:world.store.pinned sessionId=true
 · exact evictOldest_lookup_pinned _ _ hpinned
 · rw [evictOldest_lookup world.store.order world [] h (List.append_nil _).symm
    ((h.mem sessionId).mpr hmem) (Bool.eq_false_iff.mpr hpinned)]
   exact if_pos (hspared.resolve_left hpinned)

theorem evictAll_out (h:Mirrors world.store) (hspared:¬Spared world.store sessionId) (hmem:sessionId∈world.store.map) :
 (World.evictOldest world.store.order.length world).store.map.lookup sessionId=none:=by
 obtain ⟨hpinned,hfull⟩:=not_or.mp hspared
 rw [evictOldest_lookup world.store.order world [] h (List.append_nil _).symm
  ((h.mem sessionId).mpr hmem) (Bool.eq_false_iff.mpr hpinned)]
 exact if_neg hfull

theorem touchAndEvict_returns (h:Mirrors world.store) (now:ℕ) (hentry:world.store.map.lookup sessionId=some entry) :
 Returns (world.touchAndEvict sessionId now).store sessionId entry ↔ Spared world.store sessionId:=by
 have htouch:=touch_store now hentry
 have hmirrors:Mirrors (world.withStore (World.touch world.store sessionId now)).store :=
  touch_mirrors h sessionId now
 have hlookup:(World.touch world.store sessionId now).map.lookup sessionId = some { entry with lastSeen := now }:=by
  rw [htouch]
  exact AList.lookup_insert _
 have hlength:(World.touch world.store sessionId now).map.keys.length = world.store.map.keys.length:=by
  rw [htouch]
  exact (KeyedEntries.length_insert _ _ _).trans (KeyedEntries.length_erase hentry)
 have hspared:Spared (World.touch world.store sessionId now) sessionId ↔ Spared world.store sessionId:=by
  unfold Spared
  rw [hlength,htouch]
  rfl
 have hmem:sessionId∈(World.touch world.store sessionId now).map :=
  AList.lookup_isSome.mp (Option.isSome_of_eq_some hlookup)
 have hafter:(world.touchAndEvict sessionId now).store.map.lookup sessionId=_ :=
  removeAll_lookup _ _ _
 unfold Returns
 rw [hafter]
 by_cases hroom:Spared world.store sessionId
 · have hkept:=evictAll_spared hmirrors (hspared.mpr hroom) hmem
   refine iff_of_true ⟨_,hkept.trans hlookup,rfl,rfl,rfl⟩ hroom
 · have hout:=evictAll_out hmirrors (fun hroom'=>hroom (hspared.mp hroom')) hmem
   refine iff_of_false (fun ⟨stored,hstored,_⟩=>?_) hroom
   exact absurd (hout.symm.trans hstored) (by simp)

theorem takeWhile_absent {keys:List String} (h:sessionId ∉ keys) :
 (keys++[sessionId]).takeWhile (· ≠ sessionId)=keys:=by
 rw [List.takeWhile_append_of_pos,List.takeWhile_cons_of_neg (by simp),List.append_nil]
 intro key hkey
 rw [decide_eq_true_eq]
 rintro rfl
 exact h hkey

theorem adopt_returns {disk:CursorConversation} (h:Mirrors world.store) (now:ℕ) (habsent:sessionId ∉ world.store.map) :
 Returns (adopt world sessionId disk now).store sessionId disk ↔
  world.store.pinned sessionId=true ∨ world.store.map.keys.length+1 ≤
   maxConversations+unpinnedOf world.store world.store.order:=by
 have hmirrors:Mirrors (world.withStore (world.store.addEntry sessionId disk)).store :=
  mirrors_addEntry h habsent
 have hadded:=touchAndEvict_returns hmirrors now (AList.lookup_insert _)
 have horder:sessionId ∉ world.store.order:=fun hmem=>habsent ((h.mem sessionId).mp hmem)
 have hlength:(world.store.map.insert sessionId disk).keys.length = world.store.map.keys.length+1:=by
  rw [KeyedEntries.length_insert,KeyedEntries.erase_of_lookup_none (AList.lookup_eq_none.mpr habsent)]
 refine hadded.trans (or_congr Iff.rfl ?_)
 change (world.store.map.insert sessionId disk).keys.length ≤ maxConversations +
  unpinnedOf world.store ((world.store.order++[sessionId]).takeWhile (· ≠ sessionId)) ↔ _
 rw [hlength,takeWhile_absent horder]

theorem inFront_new (h:∀ existing,store.map.lookup sessionId=some existing → store.expired sessionId existing now=true)
 : inFront store sessionId now=store.order.filter (· ≠ sessionId):=by
 unfold inFront
 cases hlookup:store.map.lookup sessionId with
 | none=>exact if_neg (by simp)
 | some existing=>exact if_neg (by simp [h existing hlookup])

theorem getOrCreate_returns (env:ConversationEnv) (h:Mirrors world.store) (sessionId:String) (now:ℕ) (fresh:String) :
 Returns (getOrCreate env world sessionId now fresh).world.store sessionId
  (getOrCreate env world sessionId now fresh).conversation ↔ Stays world.store sessionId now:=by
 unfold getOrCreate
 split
 · rename_i existing hexisting
   split
   · rename_i hexpired
     have hremoved:(world.removeEntry sessionId).store={ world.store with
      map := world.store.map.erase sessionId
      order := world.store.order.filter (· ≠ sessionId) } := queued_store _ _ _
     have hfront:inFront world.store sessionId now=_:=inFront_new fun found hfound=>
      Option.some.inj (hexisting.symm.trans hfound) ▸ hexpired
     refine (adopt_returns (removeEntry_mirrors h sessionId) now (removeEntry_absent world sessionId)).trans ?_
     unfold Stays
     rw [hremoved,hfront]
     rfl
   · rename_i hfresh
     have hfront:inFront world.store sessionId now = world.store.order.takeWhile (· ≠ sessionId):=by
      unfold inFront
      rw [hexisting]
      exact if_pos (by simpa using hfresh)
     refine (touchAndEvict_returns h now hexisting).trans ?_
     unfold Spared Stays
     rw [hfront,KeyedEntries.length_erase hexisting]
 · rename_i hnone
   have habsent:sessionId ∉ world.store.map:=AList.lookup_eq_none.mp hnone
   have hfront:inFront world.store sessionId now=world.store.order:=by
    rw [inFront_new fun found hfound=>absurd (hnone.symm.trans hfound) (by simp)]
    refine List.filter_eq_self.mpr fun key hkey=>decide_eq_true ?_
    rintro rfl
    exact habsent ((h.mem key).mp hkey)
   have hstays:Stays world.store sessionId now ↔
    world.store.pinned sessionId=true ∨ world.store.map.keys.length+1 ≤
     maxConversations+unpinnedOf world.store world.store.order:=by
    unfold Stays
    rw [hfront,KeyedEntries.erase_of_lookup_none hnone]
   refine Iff.trans ?_ hstays.symm
   split
   · split
     · exact adopt_returns h now habsent
     · have hqueued:=queued_store world sessionId none
       have hcreated:Returns (adopt (world.queuePersistedDelete sessionId none) sessionId
        (freshConversation fresh now) now).store sessionId (freshConversation fresh now) ↔ _ :=
        adopt_returns (h.same hqueued) now (hqueued ▸ habsent)
       rw [hqueued] at hcreated
       exact hcreated
   · exact adopt_returns h now habsent

def Persisting : Action → Prop
 | .flush | .lock | .delete _ | .unlock | .persist _ | .write _ _=>True
 | _=>False

theorem takeLock_persisting (world:World) : ∀ action∈(takeLock world).2,Persisting action:=by
 intro action haction
 obtain ⟨pending,_,rfl⟩:=List.mem_map.mp haction
 trivial

variable {action:Action}

theorem runAction_persisting (env:ConversationEnv) (io:Io) (haction:Persisting action)
 (hrun:runAction env io action world=some (next,more)) :
 next.store=world.store ∧ ∀ action∈more,Persisting action:=by
 have hnext:∀ {first:World} {rest:List Action},
  some (first,rest)=some (next,more) → first.store=world.store →
  (∀ action∈rest,Persisting action) →
  next.store=world.store ∧ ∀ action∈more,Persisting action:=by
  intro first rest heq hfirst hrest
  obtain ⟨rfl,rfl⟩:=Prod.mk.inj (Option.some.inj heq)
  exact ⟨hfirst,hrest⟩
 have hnil:∀ action∈([] : List Action),Persisting action :=
  fun _ haction=>absurd haction List.not_mem_nil
 cases action with
 | flush=>
  simp only [runAction] at hrun
  split at hrun
  · exact hnext hrun rfl hnil
  · split at hrun
    · exact absurd hrun (by simp)
    · refine hnext hrun rfl fun action haction=>?_
      obtain htaken | hlast:=List.mem_append.mp haction
      · exact takeLock_persisting world action htaken
      · rw [List.mem_singleton.mp hlast]
        trivial
 | lock=>
  simp only [runAction] at hrun
  split at hrun
  · exact absurd hrun (by simp)
  · exact hnext hrun rfl (takeLock_persisting world)
 | delete pending=>exact hnext hrun (flushPending_store _ _ _ _) hnil
 | unlock=>exact hnext hrun rfl hnil
 | persist sessionId=>
  simp only [runAction] at hrun
  split at hrun
  · exact hnext hrun rfl (List.forall_mem_singleton.mpr trivial)
  · exact hnext hrun rfl hnil
 | write sessionId snapshot=>
  exact hnext hrun (persistConversationUnlocked_spec env io world sessionId snapshot).1 hnil
 | _=>exact absurd haction not_false

variable {config:Config World Action} {call:ℕ}

theorem run_persisting (env:ConversationEnv) {next:Config World Action} {sections:List Action}
 (ios:List Io) (hcall:config.calls.lookup call=some sections) (hsections:∀ action∈sections,Persisting action)
 (hrun:Run (conversations env) config (ios.map (.run call)) next) : next.shared.store=config.shared.store:=by
 induction ios generalizing config sections with
 | nil=>
  cases hrun
  rfl
 | cons io ios ih=>
  cases hrun with
  | cons head tail=>
   obtain ⟨action,rest,shared,more,hfound,hsection,rfl⟩:=step_run head
   obtain rfl:=Option.some.inj (hcall.symm.trans hfound)
   obtain ⟨haction,hrest⟩:=List.forall_mem_cons.mp hsections
   obtain ⟨hstore,hmore⟩:=runAction_persisting env io haction hsection
   refine (ih (AList.lookup_insert _) (fun action hmem=>?_) tail).trans hstore
   exact (List.mem_append.mp hmem).elim (hmore action) (hrest action)

theorem getOrCreate_persisting (env:ConversationEnv) (io:Io)
 (hrun:runAction env io (.getOrCreate sessionId now fresh) world=some (next,more)) :
 next=(getOrCreate env world sessionId now fresh).world ∧ ∀ action∈more,Persisting action:=by
 obtain ⟨rfl,rfl⟩:=Prod.mk.inj (Option.some.inj hrun)
 refine ⟨rfl,List.forall_mem_cons.mpr ⟨trivial,fun action haction=>?_⟩⟩
 split at haction
 · simp only [persistConversation,List.mem_cons,List.not_mem_nil,or_false] at haction
   obtain rfl | rfl:=haction <;> trivial
 · exact absurd haction List.not_mem_nil

/-- A call looks its session up last, but for what the lookup itself adds. -/
def LooksUp : Action → Prop
 | .getOrCreate _ _ _=>True
 | _=>False

def LookupLast : List Action → Prop
 | []=>True
 | action::rest=>(LooksUp action → rest=[]) ∧ LookupLast rest

theorem lookupLast_append {rest:List Action} (hmore:∀ action∈more,¬LooksUp action)
 (hrest:LookupLast rest) : LookupLast (more++rest):=by
 induction more with
 | nil=>exact hrest
 | cons action more ih=>
  obtain ⟨haction,hmore⟩:=List.forall_mem_cons.mp hmore
  exact ⟨fun hlookup=>absurd hlookup haction,ih hmore⟩

theorem persisting_not_lookup (h:Persisting action) : ¬LooksUp action:=by
 cases action with
 | getOrCreate=>exact absurd h not_false
 | _=>exact not_false

theorem sections_lookupLast (call:Call) : LookupLast call.sections:=by
 cases call with
 | saveCheckpoint | mergeBlobs | saveCheckpointIfCurrent | mergeBlobsIfCurrent=>
  simp only [Call.sections]
  split
  · trivial
  · exact ⟨False.elim,trivial⟩
 | _=>simp [Call.sections,LookupLast,LooksUp]

theorem changed_not_lookup (sessionId expected:String) (update:Option (World×Undo)) :
 ∀ action∈(changed world sessionId expected update).2,¬LooksUp action:=by
 cases update with
 | none=>exact fun _ haction=>absurd haction List.not_mem_nil
 | some update=>simp [changed,persistConversationIfCurrent,LooksUp]

theorem runAction_not_lookup (env:ConversationEnv) (io:Io) (action:Action)
 (hrun:runAction env io action world=some (next,more)) : ∀ action∈more,¬LooksUp action:=by
 have hmore:∀ {first:World} {rest:List Action},some (first,rest)=some (next,more) →
  (∀ action∈rest,¬LooksUp action) → ∀ action∈more,¬LooksUp action:=by
  intro first rest heq hrest
  rw [← (Prod.mk.inj (Option.some.inj heq)).2]
  exact hrest
 have hnil:∀ action∈([] : List Action),¬LooksUp action :=
  fun _ haction=>absurd haction List.not_mem_nil
 have hpersist:∀ sessionId,∀ action∈persistConversation sessionId,¬LooksUp action:=by
  simp [persistConversation,LooksUp]
 cases action with
 | flush | lock | delete | unlock | persist | write=>
  have hpersisting:=(runAction_persisting env io (by trivial) hrun).2
  exact fun action haction=>persisting_not_lookup (hpersisting action haction)
 | getOrCreate=>
  have hpersisting:=(getOrCreate_persisting env io hrun).2
  exact fun action haction=>persisting_not_lookup (hpersisting action haction)
 | sweep=>
  simp only [runAction] at hrun
  split at hrun
  · exact hmore hrun hnil
  · exact hmore hrun (by simp [LooksUp])
 | list=>
  refine hmore hrun fun action haction=>?_
  obtain ⟨path,_,rfl⟩:=List.mem_map.mp haction
  exact not_false
 | expire | dropLease=>
  simp only [runAction] at hrun
  split at hrun
  · first | exact hmore hrun hnil | exact absurd hrun (by simp)
  · first | exact hmore hrun hnil | exact absurd hrun (by simp)
 | get=>exact hmore hrun (by simp [LooksUp])
 | reset sessionId | save sessionId | merge sessionId=>exact hmore hrun (hpersist sessionId)
 | normalize sessionId=>
  simp only [runAction] at hrun
  split at hrun
  · exact hmore hrun (hpersist sessionId)
  · exact hmore hrun hnil
 | clear sessionId=>
  refine hmore hrun fun action haction=>?_
  split at haction
  · exact hpersist sessionId action haction
  · exact absurd haction List.not_mem_nil
 | saveIfCurrent | clearIfCurrent | mergeIfCurrent=>
  exact hmore hrun (changed_not_lookup _ _ _)
 | persistIfCurrent=>
  simp only [runAction] at hrun
  split at hrun
  · split at hrun
    · exact hmore hrun hnil
    · exact hmore hrun (by simp [LooksUp])
  · exact hmore hrun hnil
 | writeIfCurrent sessionId _ snapshot=>
  simp only [runAction] at hrun
  generalize persistConversationUnlocked env io world sessionId snapshot=outcome at hrun
  refine hmore hrun fun action haction=>?_
  split at haction
  · rw [List.mem_singleton.mp haction]
    exact not_false
  · exact absurd haction List.not_mem_nil
 | pin | rollBack=>exact hmore hrun hnil

/-- Nothing is stored, and no call has begun; files may be there. -/
structure Empty (config:Config World Action) : Prop where
 map : config.shared.store.map=∅
 order : config.shared.store.order=[]
 calls : config.calls=∅

theorem empty_mirrors (h:Empty config) : Mirrors config.shared.store:=by
 refine ⟨?_,fun key=>?_⟩
 · rw [h.order]
   exact List.nodup_nil
 · rw [h.order,h.map]
   exact iff_of_false List.not_mem_nil (AList.notMem_empty key)

theorem run_lookupLast (env:ConversationEnv) {start:Config World Action}
 {events:List (Event Call Io)} (hempty:Empty start) (hrun:Run (conversations env) start events config) :
 ∀ call sections,config.calls.lookup call=some sections → LookupLast sections:=by
 refine hrun.invariant (fun config=>∀ call sections,config.calls.lookup call=some sections → LookupLast sections)
  (fun before event after _ hbefore hstep=>?_) ?_
 · intro call sections hcall
   cases event with
   | start started request=>
    obtain ⟨_,rfl⟩:=step_start hstep
    by_cases hself:call=started
    · subst hself
      rw [← Option.some.inj ((AList.lookup_insert _).symm.trans hcall)]
      exact sections_lookupLast request
    · exact hbefore call sections ((AList.lookup_insert_ne hself).symm.trans hcall)
   | run ran io=>
    obtain ⟨action,rest,shared,more,hran,hsection,rfl⟩:=step_run hstep
    by_cases hself:call=ran
    · subst hself
      rw [← Option.some.inj ((AList.lookup_insert _).symm.trans hcall)]
      exact lookupLast_append (runAction_not_lookup env io action hsection) (hbefore call _ hran).2
    · exact hbefore call sections ((AList.lookup_insert_ne hself).symm.trans hcall)
 · intro call sections hcall
   rw [hempty.calls] at hcall
   exact absurd hcall (by simp)

/-- In every run the order of eviction holds the sessions of the map, each of them once. A
lookup of a session returns the binding that is stored when it returns exactly if the
session is pinned, or if those in front of it that are not pinned are as many as there are
bindings too many. -/
theorem order_mirrors_lookup_stays (env:ConversationEnv) (start config:Config World Action)
    (events:List (Event Call Io)) (hempty:Empty start)
    (hrun:Run (conversations env) start events config) : Mirrors config.shared.store ∧
    ∀ call sessionId now fresh rest io (ios:List Io) next,
      config.calls.lookup call=some (.getOrCreate sessionId now fresh::rest) →
      Run (conversations env) config (.run call io::ios.map (.run call)) next →
        (Returns next.shared.store sessionId (getOrCreate env config.shared sessionId now fresh).conversation ↔
          Stays config.shared.store sessionId now):=by
  have hmirrors:Mirrors config.shared.store :=
    @shared_invariant _ _ _ _ (conversations env) _ _ (fun world=>Mirrors world.store)
      (fun io action _ _ _ h hsection=>runAction_mirrors env io action h hsection) _ hrun
      (empty_mirrors hempty)
  refine ⟨hmirrors,fun call sessionId now fresh rest io ios next hcall hreturn=>?_⟩
  cases hreturn with
  | cons head tail=>
    obtain ⟨action,left,shared,more,hfound,hsection,rfl⟩:=step_run head
    obtain ⟨rfl,rfl⟩:=List.cons.inj (Option.some.inj (hcall.symm.trans hfound))
    have hrest:rest=[]:=(run_lookupLast env hempty hrun call _ hcall).1 trivial
    obtain ⟨rfl,hmore⟩:=getOrCreate_persisting env io hsection
    have hstore:=run_persisting env ios (AList.lookup_insert _) (by rw [hrest,List.append_nil]; exact hmore) tail
    rw [hstore]
    exact getOrCreate_returns env hmirrors sessionId now fresh

/-! A lookup in an empty store. -/

def lookupConfig : Config World Action :=
 ⟨{ emptyWorld with lastPersistedSweepMs := 1 },
  [⟨0,[.getOrCreate "session" 1 "conversation"]⟩].toAList⟩

def lookupEvents : List (Event Call Io) :=
 [.start 0 (.getOrCreate "session" 1 "conversation"),.run 0 stillIo,.run 0 stillIo,
  .run 0 stillIo,.run 0 stillIo]

theorem order_mirrors_lookup_stays_empty :
    Mirrors lookupConfig.shared.store ∧
      ∀ next,Run (conversations noFilesEnv) lookupConfig [.run 0 stillIo] next →
        Returns next.shared.store "session" (freshConversation "conversation" 1):=by
  obtain ⟨hmirrors,hreturns⟩:=order_mirrors_lookup_stays noFilesEnv ⟨emptyWorld,∅⟩
    lookupConfig lookupEvents ⟨rfl,rfl,rfl⟩ (Traces.perform_trace (by rfl))
  refine ⟨hmirrors,fun next hnext=>?_⟩
  exact (hreturns 0 "session" 1 "conversation" [] stillIo [] next rfl hnext).mpr (.inr (by decide))

/-! Sessions are reset until there is one binding too many, and the first is looked up. -/

def sessionName (number:ℕ) : String := String.ofList (List.replicate number 'a')

def crowdedStore : ℕ → Store
 | 0=>⟨∅,[],∅⟩
 | number+1=>
  (crowdedStore number).addEntry (sessionName number) (freshConversation "conversation" 1)

def crowdedWorld (number:ℕ) : World :=
 { emptyWorld with
   store := crowdedStore number
   written := (crowdedStore number).map }

def resetEvents : ℕ → List (Event Call Io)
 | 0=>[]
 | number+1=>resetEvents number ++
  [.start number (.reset (sessionName number) 1 "conversation"),.run number stillIo,
   .run number stillIo,.run number stillIo,.run number stillIo]

def crowdedEvents (number:ℕ) : List (Event Call Io) :=
 resetEvents number++[.start number (.getOrCreate (sessionName 0) 1 "other"),
  .run number stillIo,.run number stillIo,.run number stillIo,.run number stillIo]

theorem sessionName_injective {first second:ℕ} (h:sessionName first=sessionName second) : first=second:=by
 have hlists:=String.ofList_injective h
 simpa using congrArg List.length hlists

theorem crowdedStore_mem (number:ℕ) {key:String} :
 key∈(crowdedStore number).order ↔ ∃ session<number,key=sessionName session:=by
 induction number with
 | zero=>exact iff_of_false List.not_mem_nil fun ⟨_,h,_⟩=>absurd h (Nat.not_lt_zero _)
 | succ number ih=>
  change key∈(crowdedStore number).order++[sessionName number] ↔ _
  rw [List.mem_append,ih,List.mem_singleton]
  constructor
  · rintro (⟨session,hsession,rfl⟩ | rfl)
    · exact ⟨session,Nat.lt_succ_of_lt hsession,rfl⟩
    · exact ⟨number,Nat.lt_succ_self number,rfl⟩
  · rintro ⟨session,hsession,rfl⟩
    obtain hbelow | rfl:=Nat.lt_succ_iff_lt_or_eq.mp hsession
    · exact .inl ⟨session,hbelow,rfl⟩
    · exact .inr rfl

theorem crowdedStore_new (number:ℕ) : sessionName number ∉ (crowdedStore number).order:=by
 intro h
 obtain ⟨session,hsession,heq⟩:=(crowdedStore_mem number).mp h
 exact absurd (sessionName_injective heq) hsession.ne'

theorem crowdedStore_mirrors (number:ℕ) : Mirrors (crowdedStore number):=by
 induction number with
 | zero=>exact ⟨List.nodup_nil,fun key=>iff_of_false List.not_mem_nil (AList.notMem_empty key)⟩
 | succ number ih=>
  exact mirrors_addEntry ih fun h=>crowdedStore_new number ((ih.mem _).mpr h)

theorem crowdedStore_length (number:ℕ) : (crowdedStore number).map.keys.length=number:=by
 induction number with
 | zero=>rfl
 | succ number ih=>
  have hnew:sessionName number ∉ (crowdedStore number).map:=fun h=>
   crowdedStore_new number (((crowdedStore_mirrors number).mem _).mpr h)
  refine (KeyedEntries.length_insert _ _ _).trans ?_
  rw [KeyedEntries.erase_of_lookup_none (AList.lookup_eq_none.mpr hnew),ih]

theorem crowdedStore_pins (number:ℕ) : (crowdedStore number).pins=∅ := by
 induction number with
 | zero=>rfl
 | succ number ih=>exact ih

theorem crowdedStore_first (number:ℕ) : ∃ rest,(crowdedStore (number+1)).order=sessionName 0::rest:=by
 induction number with
 | zero=>exact ⟨[],rfl⟩
 | succ number ih=>
  obtain ⟨rest,hrest⟩:=ih
  exact ⟨rest++[sessionName (number+1)],congrArg (· ++ [sessionName (number+1)]) hrest⟩

theorem crowdedStore_lookup (number:ℕ) :
 (crowdedStore (number+1)).map.lookup (sessionName 0) = some (freshConversation "conversation" 1):=by
 induction number with
 | zero=>exact AList.lookup_insert _
 | succ number ih=>
  have hne:sessionName 0≠sessionName (number+1):=fun h=>
   absurd (sessionName_injective h) (Nat.succ_ne_zero number).symm
  exact (AList.lookup_insert_ne hne).trans ih

theorem crowdedStore_full {number:ℕ} (h:maxConversations ≤ number) :
 ¬Stays (crowdedStore (number+1)) (sessionName 0) 1:=by
 have hlookup:=crowdedStore_lookup number
 obtain ⟨rest,hrest⟩:=crowdedStore_first number
 have hfront:inFront (crowdedStore (number+1)) (sessionName 0) 1=[]:=by
  have hfresh:(crowdedStore (number+1)).expired (sessionName 0) (freshConversation "conversation" 1) 1=false :=
   Bool.and_eq_false_iff.mpr (.inr (by decide))
  unfold inFront
  rw [hlookup,hrest,Option.any_some,hfresh,if_pos (by rfl)]
  exact List.takeWhile_cons_of_neg (by simp)
 have hpins:(crowdedStore (number+1)).pinned (sessionName 0)=false:=by
  unfold Store.pinned
  rw [crowdedStore_pins]
  rfl
 have hlength:=KeyedEntries.length_erase hlookup
 rw [crowdedStore_length] at hlength
 rintro (hpinned | hroom)
 · rw [hpins] at hpinned
   exact absurd hpinned (by simp)
 · rw [hlength,hfront] at hroom
   exact absurd hroom (Nat.not_le.mpr (Nat.lt_succ_of_le h))

theorem run_started {request:Call} (h:call ∉ config.calls) :
 config.step (conversations noFilesEnv) (.start call request) =
  some { config with calls := config.calls.insert call request.sections } := if_neg h

theorem run_section {shared:World} {calls:AList fun _ : ℕ=>List Action} {rest:List Action}
 (h:runAction noFilesEnv stillIo action shared=some (next,more)) :
 Config.step (conversations noFilesEnv) ⟨shared,calls.insert call (action::rest)⟩
  (.run call stillIo) =
  some ⟨next,(calls.insert call (action::rest)).insert call (more++rest)⟩:=by
 simp only [Config.step,AList.lookup_insert,conversations,h,Option.map_some]

theorem resetEvents_run (number:ℕ) :
 ∃ calls,Run (conversations noFilesEnv) ⟨emptyWorld,∅⟩ (resetEvents number)
  ⟨crowdedWorld number,calls⟩ ∧ ∀ call,number ≤ call → call ∉ calls:=by
 induction number with
 | zero=>exact ⟨∅,.nil _,fun call _=>AList.notMem_empty call⟩
 | succ number ih=>
  obtain ⟨calls,hrun,hfree⟩:=ih
  have hreset:runAction noFilesEnv stillIo (.reset (sessionName number) 1 "conversation")
   (crowdedWorld number)=some ({ crowdedWorld number with
    store := crowdedStore (number+1) },persistConversation (sessionName number)):=by
   have hnew:=crowdedStore_new number
   simp only [runAction,reset]
   rw [if_neg (show sessionName number ∉ (crowdedWorld number).store.order from hnew)]
   rfl
  have hpersist:runAction noFilesEnv stillIo (.persist (sessionName number))
   { crowdedWorld number with
     store := crowdedStore (number+1)
     writeLocked := true }=some ({ crowdedWorld number with
      store := crowdedStore (number+1)
      writeLocked := true },
     [.write (sessionName number) (freshConversation "conversation" 1)]):=by
   have hlookup:(crowdedStore (number+1)).map.lookup (sessionName number) =
    some (freshConversation "conversation" 1) := AList.lookup_insert _
   simp only [runAction,hlookup]
  refine ⟨_,hrun.append (.cons (run_started (hfree number le_rfl)) (.cons (run_section hreset)
   (.cons (run_section rfl) (.cons (run_section hpersist) (.cons (run_section rfl) (.nil _)))))),fun call hcall=>?_⟩
  have hother:call≠number:=Nat.ne_of_gt hcall
  simp only [AList.mem_insert,hother,false_or]
  exact hfree call (Nat.le_of_succ_le hcall)

theorem crowdedEvents_run {number:ℕ} (hstays:¬Stays (crowdedStore number) (sessionName 0) 1) :
 ∃ config next,Run (conversations noFilesEnv) ⟨emptyWorld,∅⟩ (crowdedEvents number) config ∧
  config.calls.lookup number=some [.getOrCreate (sessionName 0) 1 "other"] ∧
  Run (conversations noFilesEnv) config [.run number stillIo] next ∧
  ¬Returns next.shared.store (sessionName 0)
   (getOrCreate noFilesEnv config.shared (sessionName 0) 1 "other").conversation:=by
 obtain ⟨calls,hrun,hfree⟩:=resetEvents_run number
 refine ⟨⟨{ crowdedWorld number with lastPersistedSweepMs := 1 },_⟩,_,
  hrun.append (.cons (run_started (hfree number le_rfl)) (.cons (run_section rfl)
   (.cons (run_section rfl) (.cons (run_section rfl) (.cons (run_section rfl) (.nil _)))))),
  AList.lookup_insert _,.single (run_section rfl),fun hreturns=>?_⟩
 exact hstays ((getOrCreate_returns noFilesEnv (crowdedStore_mirrors number) _ 1 _).mp hreturns)

/-- A binding is returned that was put out by its own lookup. -/
theorem lookup_returns_evicted :
    ∃ config next,Run (conversations noFilesEnv) ⟨emptyWorld,∅⟩ (crowdedEvents (maxConversations+1)) config ∧
      config.calls.lookup (maxConversations+1)=some [.getOrCreate (sessionName 0) 1 "other"] ∧
      Run (conversations noFilesEnv) config [.run (maxConversations+1) stillIo] next ∧
      ¬Returns next.shared.store (sessionName 0)
        (getOrCreate noFilesEnv config.shared (sessionName 0) 1 "other").conversation :=
  crowdedEvents_run (crowdedStore_full le_rfl)

end CursorProxy.ConversationQueue
