import CursorProxy.ConversationModel

/-! Calls on one binding change its cells in memory, write a snapshot, and put back what they
replaced where the write fails. What a cell holds was written, or belongs to a call that is under
way, as long as the roll backs and the writes keep it so. -/
namespace CursorProxy.ConversationRollback
open AtomicSections ConversationModel

inductive Cell where
 | checkpoint
 | blob (id:Bytes)

def cell (conv:CursorConversation) : Cell → Option Bytes
 | .checkpoint=>conv.checkpoint
 | .blob id=>conv.blobs.lookup id

/-- What was written in a cell, if it was touched. -/
def wrote : Undo → Cell → Option (Option Bytes)
 | .checkpoint written _, .checkpoint=>some written
 | .blobs written _ _, .blob id=>(written.lookup id).map some
 | _,_=>none

def previous : Undo → Cell → Option Bytes
 | .checkpoint _ previous, .checkpoint=>previous
 | .blobs _ replaced _, .blob id=>(replaced.lookup id).join
 | _,_=>none

structure Same (first second:CursorConversation) : Prop where
 id : second.conversationId=first.conversationId
 cells : ∀ place,cell second place=cell first place

theorem Same.refl (conv:CursorConversation) : Same conv conv := ⟨rfl,fun _=>rfl⟩

theorem Same.trans {first second third:CursorConversation} (h:Same first second)
  (h':Same second third) : Same first third :=
 ⟨h'.id.trans h.id,fun place=>(h'.cells place).trans (h.cells place)⟩

theorem same_lastSeen (conv:CursorConversation) (now:ℕ) : Same conv { conv with lastSeen := now } :=
 ⟨rfl,fun place=>by cases place <;> rfl⟩

theorem insertBlobs_lookup (inserted:List (Sigma fun _:Bytes=>Bytes)) :
  ∀ blobs:AList fun _ : Bytes=>Bytes,inserted.NodupKeys → ∀ id,
   (insertBlobs blobs inserted).lookup id =
    (List.dlookup id inserted).or (blobs.lookup id):=by
 induction inserted with
 | nil=>exact fun _ _ _=>rfl
 | cons blob rest ih=>
  intro blobs hnodup id
  obtain ⟨hfresh,hrest⟩:=List.nodupKeys_cons.mp hnodup
  refine (ih _ hrest id).trans ?_
  by_cases hid:id=blob.1
  · subst hid
    rw [AList.lookup_insert,List.dlookup_cons_eq,List.dlookup_eq_none.mpr hfresh]
    rfl
  · rw [AList.lookup_insert_ne hid,List.dlookup_cons_ne _ _ hid]

structure Remembers (change:Change) : Prop where
 id : ∀ entry,(change entry).1.conversationId=entry.conversationId
 touched : ∀ entry place value,wrote (change entry).2 place=some value → cell (change entry).1 place=value
 other : ∀ entry place,wrote (change entry).2 place=none → cell (change entry).1 place=cell entry place

theorem replaceCheckpoint_remembers (checkpoint:Option Bytes) : Remembers (replaceCheckpoint checkpoint) where
 id := fun _=>rfl
 touched:=by
  intro entry place value hwrote
  cases place with
  | checkpoint=>exact Option.some.inj hwrote
  | blob id=>exact absurd hwrote (by simp [wrote,replaceCheckpoint])
 other:=by
  intro entry place hwrote
  cases place with
  | checkpoint=>exact absurd hwrote (by simp [wrote,replaceCheckpoint])
  | blob id=>rfl

theorem mergeInto_remembers (blobs:AList fun _ : Bytes=>Bytes) :
  Remembers (mergeInto blobs) where
 id := fun _=>rfl
 touched:=by
  intro entry place value hwrote
  cases place with
  | checkpoint=>exact absurd hwrote (by simp [wrote,mergeInto])
  | blob id=>
   obtain ⟨data,hdata,rfl⟩:=Option.map_eq_some_iff.mp hwrote
   refine (insertBlobs_lookup _ _ blobs.nodupKeys id).trans ?_
   have hlookup:List.dlookup id blobs.entries=some data:=hdata
   rw [hlookup]
   rfl
 other:=by
  intro entry place hwrote
  cases place with
  | checkpoint=>rfl
  | blob id=>
   refine (insertBlobs_lookup _ _ blobs.nodupKeys id).trans ?_
   have hlookup:List.dlookup id blobs.entries=none:=Option.map_eq_none_iff.mp hwrote
   rw [hlookup]
   rfl

variable {written:AList fun _ : Bytes=>Bytes}

/-- The written value is still the visible one. -/
def Ours (written blobs:AList fun _ : Bytes=>Bytes) (id:Bytes) : Prop :=
 (written.lookup id).map some=some (blobs.lookup id)

variable {blobs:AList fun _ : Bytes=>Bytes} {id:Bytes}

theorem stillOurs_iff :
  ((written.lookup id).any fun data=>blobs.lookup id==some data)=true ↔
   Ours written blobs id:=by
 unfold Ours
 cases written.lookup id with
 | none=>simp
 | some data=>
  change (blobs.lookup id==some data)=true ↔ some (some data)=some (blobs.lookup id)
  rw [beq_iff_eq,Option.some_inj]
  exact eq_comm

theorem rollBackBlob_ours {replaced:Bytes×Option Bytes} (h:Ours written blobs replaced.1) :
  (rollBackBlob written blobs replaced).lookup replaced.1=replaced.2:=by
 unfold rollBackBlob
 dsimp only
 rw [if_pos (stillOurs_iff.mpr h)]
 split
 · rename_i value hvalue
   rw [hvalue]
   exact AList.lookup_insert _
 · rename_i hnone
   rw [hnone]
   exact AList.lookup_erase _ _

theorem rollBackBlob_kept {replaced:Bytes×Option Bytes} (h:id=replaced.1 → ¬Ours written blobs id) :
  (rollBackBlob written blobs replaced).lookup id=blobs.lookup id:=by
 unfold rollBackBlob
 dsimp only
 split
 · rename_i hany
   have hne:id≠replaced.1:=by
    rintro rfl
    exact h rfl (stillOurs_iff.mp hany)
   split
   · exact AList.lookup_insert_ne hne
   · exact AList.lookup_erase_ne hne
 · rfl

theorem rollBackBlobs_kept (replaced:List (Bytes×Option Bytes)) :
  ∀ blobs:AList fun _ : Bytes=>Bytes,
   (id∈replaced.map Prod.fst → ¬Ours written blobs id) →
   (replaced.foldl (rollBackBlob written) blobs).lookup id=blobs.lookup id:=by
 induction replaced with
 | nil=>exact fun _ _=>rfl
 | cons first rest ih=>
  intro blobs h
  have hfirst:(rollBackBlob written blobs first).lookup id=blobs.lookup id:=by
   refine rollBackBlob_kept fun hid=>h ?_
   rw [hid]
   exact List.mem_cons_self
  refine (ih _ fun hmem=>?_).trans hfirst
  unfold Ours
  rw [hfirst]
  exact h (List.mem_cons_of_mem _ hmem)

theorem rollBackBlobs_ours (replaced:List (Bytes×Option Bytes)) :
  ∀ blobs:AList fun _ : Bytes=>Bytes,(replaced.map Prod.fst).Nodup →
   id∈replaced.map Prod.fst → Ours written blobs id →
   (replaced.foldl (rollBackBlob written) blobs).lookup id=(replaced.lookup id).join:=by
 induction replaced with
 | nil=>exact fun _ _ hmem=>absurd hmem List.not_mem_nil
 | cons first rest ih=>
  intro blobs hnodup hmem hours
  obtain ⟨hfresh,hrest⟩:=List.nodup_cons.mp hnodup
  by_cases hid:id=first.1
  · subst hid
    rw [List.lookup_cons_self]
    exact (rollBackBlobs_kept rest _ fun hlater=>absurd hlater hfresh).trans
     (rollBackBlob_ours hours)
  · have hfirst:(rollBackBlob written blobs first).lookup id=blobs.lookup id :=
     rollBackBlob_kept fun hsame=>absurd hsame hid
    have hours':Ours written (rollBackBlob written blobs first) id:=by
     unfold Ours
     rw [hfirst]
     exact hours
    have hlater:id∈rest.map Prod.fst:=(List.mem_cons.mp hmem).resolve_left hid
    refine (ih _ hrest hlater hours').trans ?_
    rw [List.lookup_cons,beq_false_of_ne hid]

variable {undo:Undo}

theorem rollBack_ours {conv:CursorConversation} {place:Cell} (h:wrote undo place=some (cell conv place)) :
  cell (undo.rollBack conv) place=previous undo place:=by
 cases undo with
 | checkpoint written before=>
  cases place with
  | checkpoint=>
   have hours:conv.checkpoint=written:=(Option.some.inj h).symm
   change (rollBackCheckpoint written before conv).checkpoint=before
   unfold rollBackCheckpoint
   rw [if_pos hours]
  | blob id=>exact absurd h (by simp [wrote])
 | blobs written replaced hkeys=>
  cases place with
  | checkpoint=>exact absurd h (by simp [wrote])
  | blob id=>
   refine rollBackBlobs_ours replaced conv.blobs ?_ ?_ h
   · rw [hkeys]
     exact written.keys_nodup
   · rw [hkeys]
     obtain ⟨data,hdata,_⟩:=Option.map_eq_some_iff.mp h
     exact AList.mem_keys.mp (AList.lookup_isSome.mp (Option.isSome_of_eq_some hdata))

theorem rollBack_kept {conv:CursorConversation} {place:Cell} (h:wrote undo place≠some (cell conv place)) :
  cell (undo.rollBack conv) place=cell conv place:=by
 cases undo with
 | checkpoint written before=>
  change cell (rollBackCheckpoint written before conv) place=_
  unfold rollBackCheckpoint
  split
  · rename_i hours
    cases place with
    | checkpoint=>exact absurd (congrArg some hours.symm) h
    | blob id=>rfl
  · rfl
 | blobs written replaced hkeys=>
  cases place with
  | checkpoint=>rfl
  | blob id=>exact rollBackBlobs_kept replaced conv.blobs fun _=>h

/-- Some entries are gone; those that are left hold the same. -/
structure Shrinks (before after:World) : Prop where
 written : after.written=before.written
 entries : ∀ sessionId entry,after.store.map.lookup sessionId=some entry →
  ∃ old,before.store.map.lookup sessionId=some old ∧ Same old entry

variable {before middle after world:World}

theorem Shrinks.refl : Shrinks world world := ⟨rfl,fun _ entry h=>⟨entry,h,.refl entry⟩⟩

theorem Shrinks.trans (h:Shrinks before middle) (h':Shrinks middle after) : Shrinks before after:=by
 refine ⟨h'.written.trans h.written,fun sessionId entry hentry=>?_⟩
 obtain ⟨kept,hkept,hsame'⟩:=h'.entries sessionId entry hentry
 obtain ⟨old,hold,hsame⟩:=h.entries sessionId kept hkept
 exact ⟨old,hold,hsame.trans hsame'⟩

theorem shrinks_same (hstore:after.store.map=before.store.map)
  (hwritten:after.written=before.written) : Shrinks before after :=
 ⟨hwritten,fun _ entry h=>⟨entry,by rw [← hstore]; exact h,.refl entry⟩⟩

theorem shrinks_order (world:World) (order:List String) :
  Shrinks world (world.withStore { world.store with order := order }) := shrinks_same rfl rfl

theorem shrinks_queued (world:World) (sessionId:String) (conversation:Option CursorConversation) :
  Shrinks world (world.queuePersistedDelete sessionId conversation):=by
 unfold World.queuePersistedDelete
 dsimp only
 split <;> exact shrinks_same rfl rfl

theorem shrinks_erase (world:World) (sessionId:String) (order:List String) :
  Shrinks world (world.withStore { world.store with
   map := world.store.map.erase sessionId
   order := order }):=by
 refine ⟨rfl,fun other entry h=>⟨entry,?_,.refl entry⟩⟩
 by_cases hother:other=sessionId
 · subst hother
   exact absurd h (by simp [World.withStore])
 · exact (AList.lookup_erase_ne hother).symm.trans h

theorem evictOldest_shrinks (remaining:ℕ) (world:World) : Shrinks world (World.evictOldest remaining world):=by
 induction remaining generalizing world with
 | zero=>exact .refl
 | succ remaining ih=>
  unfold World.evictOldest
  split
  · split
    · exact .refl
    · split
      · exact (shrinks_order world _).trans (ih _)
      · exact ((shrinks_erase world _ _).trans (shrinks_queued _ _ _)).trans (ih _)
  · exact .refl

theorem removeAll_shrinks (sessionId:String) (keys:List String) :
  ∀ world:World,Shrinks world (keys.foldl
   (fun world key=>if key=sessionId then world else world.removeEntry key) world):=by
 induction keys with
 | nil=>exact fun _=>.refl
 | cons key keys ih=>
  intro world
  refine Shrinks.trans ?_ (ih _)
  beta_reduce
  split
  · exact .refl
  · exact (shrinks_erase world key _).trans (shrinks_queued _ _ _)

theorem touch_shrinks (world:World) (sessionId:String) (now:ℕ) :
  Shrinks world (world.withStore (World.touch world.store sessionId now)):=by
 unfold World.touch
 split
 · rename_i old hold
   refine ⟨rfl,fun other entry h=>?_⟩
   by_cases hother:other=sessionId
   · subst hother
     obtain rfl:=Option.some.inj ((AList.lookup_insert _).symm.trans h)
     exact ⟨old,hold,same_lastSeen old now⟩
   · exact ⟨entry,(AList.lookup_insert_ne hother).symm.trans h,.refl entry⟩
 · exact .refl

theorem touchAndEvict_shrinks (world:World) (sessionId:String) (now:ℕ) :
  Shrinks world (world.touchAndEvict sessionId now):=by
 have hevicted:=evictOldest_shrinks (World.touch world.store sessionId now).order.length
  (world.withStore (World.touch world.store sessionId now))
 exact ((touch_shrinks world sessionId now).trans hevicted).trans (removeAll_shrinks _ _ _)

theorem flushPending_shrinks (env:ConversationEnv) (io:Io) (world:World)
  (pending:PendingPersistDelete) : Shrinks world (flushPending env io world pending):=by
 have hremoved:∀ path,Shrinks world (removeFile io world path):=by
  intro path
  unfold removeFile
  split <;> exact shrinks_same rfl rfl
 unfold flushPending
 split
 · split
   · exact hremoved _
   · exact .refl
 · exact .refl

variable {now:ℕ}

theorem setChanged_entries {sessionId:String} {entry changed:CursorConversation}
  (h:(setChanged world sessionId changed now).store.map.lookup sessionId=some entry) : Same changed entry:=by
 obtain ⟨old,hold,hsame⟩:=(touchAndEvict_shrinks _ sessionId now).entries sessionId entry h
 obtain rfl:=Option.some.inj ((AList.lookup_insert _).symm.trans hold)
 exact (same_lastSeen changed now).trans hsame

theorem setChanged_written {sessionId:String} {changed:CursorConversation} :
  (setChanged world sessionId changed now).written=world.written :=
 (touchAndEvict_shrinks _ sessionId now).written

def OnBinding (sessionId expected:String) : Call → Prop
 | .saveCheckpointIfCurrent session id _ _ | .clearCheckpointIfCurrent session id _
 | .mergeBlobsIfCurrent session id _ _=>session=sessionId ∧ id=expected
 | _=>False

def SectionOn (sessionId expected:String) : Action → Prop
 | .saveIfCurrent session id _ _ | .clearIfCurrent session id _ | .mergeIfCurrent session id _ _
 | .persistIfCurrent session id _ | .writeIfCurrent session id _ _ | .rollBack session id _=>
  session=sessionId ∧ id=expected
 | .lock | .delete _=>True
 | _=>False

def undoOf : Action → Option Undo
 | .persistIfCurrent _ _ undo | .writeIfCurrent _ _ _ undo | .rollBack _ _ undo=>some undo
 | _=>none

/-- The call has written the value in the cell. -/
def Wrote (place:Cell) (value:Option Bytes) (action:Action) : Prop :=
 ∃ undo,undoOf action=some undo ∧ wrote undo place=some value

/-- The last snapshot that was written, or what was there first. -/
def durable (first:CursorConversation) (world:World) (sessionId:String) :
  CursorConversation := (world.written.lookup sessionId).getD first

variable {env:ConversationEnv} {first:CursorConversation} {sessionId expected:String}
 {config:Config World Action} {call:ℕ}

/-- A roll back puts back what is durable, or what another call that is under way has
written. -/
def RestoresKnown (first:CursorConversation) (sessionId:String) (config:Config World Action)
  (call:ℕ) (undo:Undo) : Prop :=
 ∀ entry,config.shared.store.map.lookup sessionId=some entry →
  ∀ place,wrote undo place=some (cell entry place) →
   previous undo place=cell (durable first config.shared sessionId) place ∨
    config.Awaits call (Wrote place (previous undo place))

/-- What has changed since the snapshot was taken, another call that is under way has
written. -/
def WritesSeen (sessionId:String) (config:Config World Action) (call:ℕ) (snapshot:CursorConversation) : Prop :=
 ∀ entry,config.shared.store.map.lookup sessionId=some entry →
  ∀ place,cell entry place=cell snapshot place ∨ config.Awaits call (Wrote place (cell entry place))

/-- A roll back restores what is known, and a write that succeeds has seen what is there. -/
def Sound (env:ConversationEnv) (first:CursorConversation) (sessionId:String)
  (config:Config World Action) : Event Call Io → Prop
 | .start _ _=>True
 | .run call io=>
  match config.calls.lookup call with
  | some (.rollBack _ _ undo::_)=>RestoresKnown first sessionId config call undo
  | some (.writeIfCurrent session _ snapshot _::_)=>
   (persistConversationUnlocked env io config.shared session snapshot).2=none →
    WritesSeen sessionId config call snapshot
  | _=>True

/-- What a cell of the binding holds is durable, or was written by a call that is under
way. -/
structure Backed (first:CursorConversation) (sessionId expected:String)
  (config:Config World Action) : Prop where
 id : ∀ entry,config.shared.store.map.lookup sessionId=some entry → entry.conversationId=expected
 cells : ∀ entry,config.shared.store.map.lookup sessionId=some entry →
  ∀ place,cell entry place=cell (durable first config.shared sessionId) place ∨
   config.Pending (Wrote place (cell entry place))

variable {action:Action} {more rest:List Action} {shared:World}

theorem backed_shrinks (h:Backed first sessionId expected config)
  (hcall:config.calls.lookup call=some (action::rest)) (hshrinks:Shrinks config.shared shared)
  (hmore:∀ place value,Wrote place value action → ∃ act∈more,Wrote place value act) :
  Backed first sessionId expected ⟨shared,config.calls.insert call (more++rest)⟩:=by
 constructor
 · intro entry hentry
   obtain ⟨old,hold,hsame⟩:=hshrinks.entries sessionId entry hentry
   exact hsame.id.trans (h.id old hold)
 · intro entry hentry place
   obtain ⟨old,hold,hsame⟩:=hshrinks.entries sessionId entry hentry
   have hdurable:durable first shared sessionId=durable first config.shared sessionId:=by
    unfold durable
    rw [hshrinks.written]
   rw [hsame.cells place]
   obtain hcell | hpending:=h.cells old hold place
   · exact .inl (by rw [hdurable]; exact hcell)
   · exact .inr (pending_run hcall (hmore place _) hpending)

theorem not_wrote (hundo:undoOf action=none) (place:Cell) (value:Option Bytes) : ¬Wrote place value action:=by
 rintro ⟨undo,hsome,_⟩
 exact absurd (hundo.symm.trans hsome) (by simp)

theorem backed_changed (h:Backed first sessionId expected config)
  (hcall:config.calls.lookup call=some (action::rest)) (hundo:undoOf action=none)
  {change:Change} (hchange:Remembers change)
  (hrun:some (changed config.shared sessionId expected (updateIfCurrent config.shared sessionId expected now change))=some (shared,more))
  : Backed first sessionId expected ⟨shared,config.calls.insert call (more++rest)⟩:=by
 have hidle:some (config.shared,[])=some (shared,more) →
   Backed first sessionId expected ⟨shared,config.calls.insert call (more++rest)⟩:=by
  intro heq
  obtain ⟨rfl,rfl⟩:=Prod.mk.inj (Option.some.inj heq)
  exact backed_shrinks h hcall .refl fun place value hwrote=>
   absurd hwrote (not_wrote hundo place value)
 unfold updateIfCurrent at hrun
 split at hrun
 · exact hidle hrun
 · rename_i old hold
   split at hrun
   · exact hidle hrun
   · obtain ⟨rfl,rfl⟩:=Prod.mk.inj (Option.some.inj hrun)
     constructor
     · intro entry hentry
       exact ((setChanged_entries hentry).id.trans (hchange.id old)).trans (h.id old hold)
     · intro entry hentry place
       have hcell:=(setChanged_entries hentry).cells place
       have hdurable:durable first (setChanged config.shared sessionId (change old).1 now)
         sessionId=durable first config.shared sessionId:=by
        unfold durable
        rw [setChanged_written]
       cases hwrote:wrote (change old).2 place with
       | some value=>
        refine .inr (pending_added ⟨.persistIfCurrent sessionId expected (change old).2,?_,?_⟩)
        · exact List.mem_cons_of_mem _ List.mem_cons_self
        · exact ⟨_,rfl,by rw [hcell,hchange.touched old place value hwrote]; exact hwrote⟩
       | none=>
        rw [hcell,hchange.other old place hwrote]
        obtain hdone | hpending:=h.cells old hold place
        · exact .inl (by rw [hdurable]; exact hdone)
        · exact .inr (pending_run hcall (fun hself=>absurd hself (not_wrote hundo place _)) hpending)

theorem backed_written (h:Backed first sessionId expected config)
  {snapshot:CursorConversation} (hstore:shared.store.map=config.shared.store.map)
  (hwritten:shared.written=config.shared.written.insert sessionId snapshot)
  (hseen:WritesSeen sessionId config call snapshot) :
  Backed first sessionId expected ⟨shared,config.calls.insert call (more++rest)⟩:=by
 have hdurable:durable first shared sessionId=snapshot:=by
  unfold durable
  rw [hwritten,AList.lookup_insert]
  rfl
 constructor
 · intro entry hentry
   rw [hstore] at hentry
   exact h.id entry hentry
 · intro entry hentry place
   rw [hstore] at hentry
   obtain hcell | hawaits:=hseen entry hentry place
   · exact .inl (by rw [hdurable]; exact hcell)
   · exact .inr hawaits.insert

variable {io:Io}

theorem write_backed (h:Backed first sessionId expected config) {snapshot:CursorConversation}
  (hcall:config.calls.lookup call=some (.writeIfCurrent sessionId expected snapshot undo::rest))
  (hsound:(persistConversationUnlocked env io config.shared sessionId snapshot).2=none → WritesSeen sessionId config call snapshot)
  (hrun:runAction env io (.writeIfCurrent sessionId expected snapshot undo) config.shared=some (shared,more))
  : Backed first sessionId expected ⟨shared,config.calls.insert call (more++rest)⟩:=by
 obtain ⟨hstore,_,hwritten⟩:=persistConversationUnlocked_spec env io config.shared sessionId snapshot
 simp only [runAction] at hrun
 generalize persistConversationUnlocked env io config.shared sessionId snapshot=outcome
  at hsound hrun hstore hwritten
 obtain ⟨world,error⟩:=outcome
 have hmap:world.store.map=config.shared.store.map:=congrArg Store.map hstore
 obtain ⟨rfl,rfl⟩:=Prod.mk.inj (Option.some.inj hrun)
 cases error with
 | none=>exact backed_written h hmap hwritten (hsound rfl)
 | some message=>
  refine backed_shrinks h hcall (shrinks_same hmap hwritten) fun place value hwrote=>?_
  obtain ⟨own,hown,hvalue⟩:=hwrote
  exact ⟨.rollBack sessionId expected undo,List.mem_cons_self,own,hown,hvalue⟩

theorem rollBack_backed (h:Backed first sessionId expected config)
  (hcall:config.calls.lookup call=some (.rollBack sessionId expected undo::rest))
  (hsound:RestoresKnown first sessionId config call undo)
  (hrun:some (rollBack config.shared sessionId expected undo,[])=some (shared,more)) :
  Backed first sessionId expected ⟨shared,config.calls.insert call (more++rest)⟩:=by
 obtain ⟨rfl,rfl⟩:=Prod.mk.inj (Option.some.inj hrun)
 cases hold:config.shared.store.map.lookup sessionId with
 | none=>
  have hstore:rollBack config.shared sessionId expected undo=config.shared:=by
   unfold rollBack
   rw [hold]
  rw [hstore]
  constructor
  · exact fun entry hentry=>absurd (hold.symm.trans hentry) (by simp)
  · exact fun entry hentry=>absurd (hold.symm.trans hentry) (by simp)
 | some old=>
  have hstore:rollBack config.shared sessionId expected undo =
    config.shared.withStore (config.shared.store.setEntry sessionId (undo.rollBack old)):=by
   unfold rollBack
   rw [hold]
   exact if_pos (h.id old hold)
  rw [hstore]
  have hentries:∀ entry,(config.shared.store.setEntry sessionId
    (undo.rollBack old)).map.lookup sessionId=some entry → entry=undo.rollBack old :=
   fun entry hentry=>Option.some.inj (hentry.symm.trans (AList.lookup_insert _))
  constructor
  · intro entry hentry
    obtain rfl:=hentries entry hentry
    exact (undo.rollBack_conversationId old).trans (h.id old hold)
  · intro entry hentry place
    obtain rfl:=hentries entry hentry
    by_cases hours:wrote undo place=some (cell old place)
    · rw [rollBack_ours hours]
      obtain hknown | hawaits:=hsound old hold place hours
      · exact .inl hknown
      · exact .inr hawaits.insert
    · rw [rollBack_kept hours]
      obtain hdone | hpending:=h.cells old hold place
      · exact .inl hdone
      · refine .inr (pending_run hcall (fun hself=>?_) hpending)
        obtain ⟨own,hown,hvalue⟩:=hself
        rw [← Option.some.inj hown] at hvalue
        exact absurd hvalue hours

theorem onBinding_sections {request:Call} (h:OnBinding sessionId expected request) :
  ∀ act∈request.sections,SectionOn sessionId expected act:=by
 cases request with
 | saveCheckpointIfCurrent | mergeBlobsIfCurrent=>
  simp only [Call.sections]
  split
  · exact fun _ hact=>absurd hact List.not_mem_nil
  · exact List.forall_mem_singleton.mpr h
 | clearCheckpointIfCurrent=>exact List.forall_mem_singleton.mpr h
 | _=>exact h.elim

theorem changed_sections (world:World) (update:Option (World×Undo)) :
  ∀ act∈(changed world sessionId expected update).2,SectionOn sessionId expected act:=by
 cases update with
 | none=>exact fun _ hact=>absurd hact List.not_mem_nil
 | some update=>simp [changed,persistConversationIfCurrent,SectionOn]

theorem runAction_sections {world:World} (h:SectionOn sessionId expected action)
  (hrun:runAction env io action world=some (shared,more)) : ∀ act∈more,SectionOn sessionId expected act:=by
 have hmore:∀ {next:World} {acts:List Action},some (next,acts)=some (shared,more) →
   (∀ act∈acts,SectionOn sessionId expected act) → ∀ act∈more,SectionOn sessionId expected act:=by
  intro next acts heq hacts
  rw [← (Prod.mk.inj (Option.some.inj heq)).2]
  exact hacts
 have hnil:∀ act∈([] : List Action),SectionOn sessionId expected act :=
  fun _ hact=>absurd hact List.not_mem_nil
 cases action with
 | lock=>
  simp only [runAction] at hrun
  split at hrun
  · exact absurd hrun (by simp)
  · refine hmore hrun fun act hact=>?_
    obtain ⟨pending,_,rfl⟩:=List.mem_map.mp hact
    trivial
 | saveIfCurrent | clearIfCurrent | mergeIfCurrent=>
  obtain ⟨rfl,rfl⟩:=h
  exact hmore hrun (changed_sections _ _)
 | persistIfCurrent=>
  simp only [runAction] at hrun
  split at hrun
  · split at hrun
    · exact hmore hrun hnil
    · exact hmore hrun (List.forall_mem_singleton.mpr h)
  · exact hmore hrun hnil
 | writeIfCurrent session _ snapshot=>
  simp only [runAction] at hrun
  generalize persistConversationUnlocked env io world session snapshot=outcome at hrun
  refine hmore hrun fun act hact=>?_
  split at hact
  · rw [List.mem_singleton.mp hact]
    exact h
  · exact absurd hact List.not_mem_nil
 | delete | rollBack=>exact hmore hrun hnil
 | _=>exact h.elim

theorem run_backed (h:Backed first sessionId expected config) (hsection:SectionOn sessionId expected action)
  (hcall:config.calls.lookup call=some (action::rest)) (hsound:Sound env first sessionId config (.run call io))
  (hrun:runAction env io action config.shared=some (shared,more)) :
  Backed first sessionId expected ⟨shared,config.calls.insert call (more++rest)⟩:=by
 simp only [Sound,hcall] at hsound
 have hsilent:undoOf action=none → Shrinks config.shared shared →
   Backed first sessionId expected ⟨shared,config.calls.insert call (more++rest)⟩ :=
  fun hundo hshrinks=>backed_shrinks h hcall hshrinks fun place value hwrote=>
   absurd hwrote (not_wrote hundo place value)
 cases action with
 | lock=>
  simp only [runAction] at hrun
  split at hrun
  · exact absurd hrun (by simp)
  · obtain ⟨rfl,rfl⟩:=Prod.mk.inj (Option.some.inj hrun)
    exact hsilent rfl (shrinks_same rfl rfl)
 | delete pending=>
  obtain ⟨rfl,rfl⟩:=Prod.mk.inj (Option.some.inj hrun)
  exact hsilent rfl (flushPending_shrinks env io config.shared pending)
 | saveIfCurrent=>
  obtain ⟨rfl,rfl⟩:=hsection
  exact backed_changed h hcall rfl (replaceCheckpoint_remembers _) hrun
 | clearIfCurrent=>
  obtain ⟨rfl,rfl⟩:=hsection
  exact backed_changed h hcall rfl (replaceCheckpoint_remembers _) hrun
 | mergeIfCurrent=>
  obtain ⟨rfl,rfl⟩:=hsection
  exact backed_changed h hcall rfl (mergeInto_remembers _) hrun
 | persistIfCurrent session id undo=>
  obtain ⟨rfl,rfl⟩:=hsection
  simp only [runAction] at hrun
  split at hrun
  · rename_i current hcurrent
    rw [if_neg (not_not.mpr (h.id current hcurrent))] at hrun
    obtain ⟨rfl,rfl⟩:=Prod.mk.inj (Option.some.inj hrun)
    refine backed_shrinks h hcall .refl fun place value hwrote=>?_
    obtain ⟨own,hown,hvalue⟩:=hwrote
    exact ⟨_,List.mem_cons_self,own,hown,hvalue⟩
  · rename_i hnone
    obtain ⟨rfl,rfl⟩:=Prod.mk.inj (Option.some.inj hrun)
    constructor
    · exact fun entry hentry=>absurd (hnone.symm.trans hentry) (by simp)
    · exact fun entry hentry=>absurd (hnone.symm.trans hentry) (by simp)
 | writeIfCurrent session id snapshot undo=>
  obtain ⟨rfl,rfl⟩:=hsection
  exact write_backed h hcall hsound hrun
 | rollBack session id undo=>
  obtain ⟨rfl,rfl⟩:=hsection
  exact rollBack_backed h hcall hsound hrun
 | _=>exact hsection.elim

/-- The binding as it is first, before any call on it. -/
structure Begins (first:CursorConversation) (sessionId expected:String)
  (config:Config World Action) : Prop where
 binding : config.shared.store.map.lookup sessionId=some first
 id : first.conversationId=expected
 written : config.shared.written.lookup sessionId=none
 calls : config.calls=∅

theorem begins_backed (h:Begins first sessionId expected config) : Backed first sessionId expected config:=by
 have hfirst:∀ entry,config.shared.store.map.lookup sessionId=some entry → entry=first :=
  fun entry hentry=>Option.some.inj (hentry.symm.trans h.binding)
 constructor
 · intro entry hentry
   rw [hfirst entry hentry]
   exact h.id
 · intro entry hentry place
   left
   unfold durable
   rw [hfirst entry hentry,h.written]
   rfl

theorem begins_all (h:Begins first sessionId expected config) : config.All (SectionOn sessionId expected):=by
 intro call sections hcall
 rw [h.calls] at hcall
 exact absurd hcall (by simp)

/-- In a run of `*_if_current` calls on one binding whose roll backs restore what is known
and whose writes have seen what is there, memory holds what was written last, once all
calls have returned. -/
theorem settled_as_written (env:ConversationEnv) (first:CursorConversation)
    (sessionId expected:String) (start config:Config World Action)
    (events:List (Event Call Io)) (hstart:Begins first sessionId expected start)
    (hcalls:∀ call request, .start call request∈events → OnBinding sessionId expected request)
    (hrun:Traces.Trace (fun config event next=>
      config.step (conversations env) event=some next ∧ Sound env first sessionId config event)
        start events config)
    (hquiet:config.Quiet) (entry:CursorConversation)
    (hentry:config.shared.store.map.lookup sessionId=some entry) :
    entry.checkpoint=(durable first config.shared sessionId).checkpoint ∧
      ∀ id,entry.blobs.lookup id=(durable first config.shared sessionId).blobs.lookup id:=by
  have hbacked:Backed first sessionId expected config ∧
      config.All (SectionOn sessionId expected):=by
    refine hrun.invariant (fun config=>Backed first sessionId expected config ∧
      config.All (SectionOn sessionId expected)) ?_ ⟨begins_backed hstart,begins_all hstart⟩
    rintro config event next hevent ⟨hbacked,hall⟩ ⟨hstep,hsound⟩
    refine ⟨?_,all_step hall (fun call request hrequest=>?_)
      (fun _ _ _ _ _ hact hsection=>runAction_sections hact hsection) hstep⟩
    · cases event with
      | start call request=>
        obtain ⟨hfree,rfl⟩:=step_start hstep
        refine ⟨hbacked.id,fun entry hentry place=>?_⟩
        exact (hbacked.cells entry hentry place).imp_right (pending_start hfree)
      | run call io=>
        obtain ⟨action,rest,shared,more,hcall,hsection,rfl⟩:=step_run hstep
        exact run_backed hbacked (hall call _ hcall action List.mem_cons_self) hcall hsound hsection
    · exact onBinding_sections (hcalls call request (hrequest ▸ hevent))
  have hcells:∀ place,cell entry place = cell (durable first config.shared sessionId) place := fun place=>
    (hbacked.1.cells entry hentry place).resolve_right (not_pending hquiet)
  exact ⟨hcells .checkpoint,fun id=>hcells (.blob id)⟩

/-! Calls that save a checkpoint of one session, whose writes fail. -/

def oneFileEnv : ConversationEnv where
 persistPath := fun _=>some "session.json"
 toVec := fun _=>[]
 fromSlice := fun _=>none
 b64Encode := fun _=>""
 b64Decode := fun _=>none

def failingIo : Io := ⟨.failed "no space left on device" false,true,none⟩

def worldWith (checkpoint:Option Bytes) (lastSeen:ℕ) : World where
 store := ⟨(∅ : AList fun _ : String=>CursorConversation).insert "session"
  ⟨"conversation",checkpoint,∅,lastSeen⟩,["session"],∅⟩
 pendingPersistDeletes := []
 files := ∅
 writeLocked := false
 lastPersistedSweepMs := 0
 leases := []
 written := ∅

def unsaved : CursorConversation := ⟨"conversation",none,∅,0⟩

theorem worldWith_begins : Begins unsaved "session" "conversation" ⟨worldWith none 0,∅⟩ := ⟨rfl,rfl,rfl,rfl⟩

def returned (calls:List ℕ) : AList fun _ : ℕ=>List Action :=
 (calls.map fun call=>(⟨call,[]⟩ : Sigma fun _ : ℕ=>List Action)).toAList

theorem returned_quiet (world:World) (calls:List ℕ) : Config.Quiet ⟨world,returned calls⟩:=by
 induction calls with
 | nil=>exact fun _ hentry=>absurd hentry List.not_mem_nil
 | cons call calls ih=>
  intro entry hentry
  obtain rfl | hlater:=List.mem_cons.mp hentry
  · rfl
  · exact ih entry ((List.kerase_sublist _ _).subset hlater)

/-- One call alone: what it has failed to write is gone. -/
theorem settled_as_written_alone : ∃ entry,
    (worldWith none 1).store.map.lookup "session" = some entry ∧ entry.checkpoint=none:=by
  have hrequest:∀ call request,
      .start call request∈[Event.start 0 (Call.saveCheckpointIfCurrent "session" "conversation" [1] 1),.run 0 failingIo,
        .run 0 failingIo,.run 0 failingIo,.run 0 failingIo,.run 0 failingIo] →
      OnBinding "session" "conversation" request:=by
    intro call request hrequest
    simp only [List.mem_cons,Event.start.injEq,reduceCtorEq,List.not_mem_nil,or_false] at hrequest
    obtain ⟨_,rfl⟩:=hrequest
    exact ⟨rfl,rfl⟩
  refine ⟨_,rfl,(settled_as_written oneFileEnv unsaved "session" "conversation"
    ⟨worldWith none 0,∅⟩ ⟨worldWith none 1,returned [0]⟩ _ worldWith_begins hrequest ?_ (returned_quiet _ _) _ rfl).1⟩
  refine .cons ⟨rfl,trivial⟩ (.cons ⟨rfl,trivial⟩ (.cons ⟨rfl,trivial⟩ (.cons ⟨rfl,trivial⟩
    (.cons ⟨rfl,?_⟩ (.cons ⟨rfl,?_⟩ (.nil _))))))
  · exact fun hsaved=>absurd hsaved (by simp [persistConversationUnlocked,oneFileEnv, failingIo])
  · intro found _ place hwrote
    cases place with
    | checkpoint=>exact .inl rfl
    | blob id=>
      have hnone:none=some _:=hwrote
      exact absurd hnone (by simp)

/-- The second of two overlapping calls puts back what the first one has failed to write. -/
theorem failed_checkpoint_restored :
    ¬∀ (events:List (Event Call Io)) (config:Config World Action) (entry:CursorConversation),
      (∀ call request, .start call request∈events → OnBinding "session" "conversation" request) →
      Run (conversations oneFileEnv) ⟨worldWith none 0,∅⟩ events config → config.Quiet →
      config.shared.store.map.lookup "session" = some entry →
        entry.checkpoint=(durable unsaved config.shared "session").checkpoint:=by
  intro h
  have hsettled:=h
    [.start 0 (.saveCheckpointIfCurrent "session" "conversation" [1] 1),
      .start 1 (.saveCheckpointIfCurrent "session" "conversation" [2] 2),
      .run 0 failingIo,.run 1 failingIo,.run 0 failingIo,.run 0 failingIo,.run 0 failingIo,
      .run 1 failingIo,.run 1 failingIo,.run 1 failingIo,.run 0 failingIo,.run 1 failingIo]
    ⟨worldWith (some [1]) 2,returned [1,0]⟩ ⟨"conversation",some [1],∅,2⟩ ?_
    (Traces.perform_trace (by rfl)) (returned_quiet _ _) rfl
  · exact absurd hsettled (by decide)
  · intro call request hrequest
    simp only [List.mem_cons,Event.start.injEq,reduceCtorEq,List.not_mem_nil,or_false] at hrequest
    obtain ⟨_,rfl⟩ | ⟨_,rfl⟩:=hrequest <;> exact ⟨rfl,rfl⟩

end CursorProxy.ConversationRollback
