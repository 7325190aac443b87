import CursorProxy.SandFidelity

namespace CursorProxy.SandAbandonment
open SandModel SandFidelity Traces

variable {env:SandEnv} {state next:SandState} {action:SandAction}

/-- The receiver is there, has taken all it got and no sender is left. -/
def ObservesClose (state:SandState) (id:ℕ) : Prop :=
 state.senderOpen id=true ∧ (state.channels id).sent.length ≤ (state.channels id).received ∧
  (∀ subscriber∈state.entry.subscribers,subscriber.id≠id) ∧ id ∉ awaiting state

/-- A duplicate sees its channel closed although nothing was published. -/
def EmptySuccess (state:SandState) : Prop :=
 state.published=[] ∧ ∃ id,(state.channels id).owner=false ∧ ObservesClose state id

def DuplicateAttached (state:SandState) : Prop :=
 ∃ subscriber∈state.entry.subscribers,(state.channels subscriber.id).owner=false ∧ state.senderOpen subscriber.id=true

/-- The step ends the operation with nothing published under the eyes of an
attached duplicate, or admits a duplicate after such an end. -/
def Empties (state:SandState) (action:SandAction) : Prop :=
 state.published=[] ∧
  match action with
  | .finish _=>DuplicateAttached state
  | .dropOwner _=>(state.phase=.opening ∨ state.phase=.failing ∨ state.phase=.failed) ∧
    state.entry.finishedAt=none ∧ DuplicateAttached state
  | .subscribe=>state.entry.finishedAt.isSome ∧ state.entry.replayTruncated=false
  | _=>False

/-- While an event is being published, one was published. -/
def Busy (state:SandState) : Prop := state.published=[] → state.publication=none

theorem trySend_frame (channel:Channel) (event:LiveEventResult) :
  (channel.trySend event).owner=channel.owner ∧ (channel.trySend event).receiverOpen=channel.receiverOpen:=by
 unfold Channel.trySend
 split_ifs <;> exact ⟨rfl,rfl⟩

theorem foldl_trySend_frame (events:List LiveEventResult) (channel:Channel) :
  (events.foldl Channel.trySend channel).owner=channel.owner ∧
   (events.foldl Channel.trySend channel).receiverOpen=channel.receiverOpen:=by
 induction events generalizing channel with
 | nil=>exact ⟨rfl,rfl⟩
 | cons event events ih=>
  obtain ⟨howner,hopen⟩:=ih (channel.trySend event)
  obtain ⟨howner',hopen'⟩:=trySend_frame channel event
  exact ⟨howner.trans howner',hopen.trans hopen'⟩

theorem replayChannel_frame (owner:Bool) (replay:List LiveEventResult) :
  (replayChannel owner replay).owner=owner ∧ (replayChannel owner replay).receiverOpen=true :=
 foldl_trySend_frame replay _

theorem subscribe_frame (env:SandEnv) (state:SandState) (owner:Bool) :
  (state.subscribe env owner).1.published=state.published ∧
   (state.subscribe env owner).1.publication=state.publication:=by
 unfold SandState.subscribe
 dsimp only
 split_ifs <;> exact ⟨rfl,rfl⟩

theorem busy_step (h:Busy state) (hstep:SandStep env state action next) : Busy next:=by
 intro hnothing
 cases hstep.effect with
 | subscribed=>
  obtain ⟨hpublished,hpublication⟩:=subscribe_frame env state false
  rw [hpublication]
  exact h (hpublished ▸ hnothing)
 | forwarded _=>exact h hnothing
 | began _ event phase _=>exact absurd hnothing (by simp [SandState.beginPublish])
 | delivered _ publication _ _ _ hpublication=>
  exact absurd (h hnothing) (by simp [hpublication])
 | refused _ publication _ _ _ hpublication=>
  exact absurd (h hnothing) (by simp [hpublication])
 | settled=>rfl
 | finished _ _ hidle=>exact hidle
 | dropped now=>
  unfold SandState.dropOwner at hnothing ⊢
  split at hnothing
  · exact h hnothing
  · exact h hnothing
  · exact h hnothing
  all_goals
   dsimp only
   split_ifs <;> rfl
 | receiver=>exact h hnothing

theorem emptySuccess_iff (hfaithful:Faithful state) (hbusy:Busy state) :
  EmptySuccess state ↔ state.published=[] ∧ ∃ id,(state.channels id).owner=false ∧
   state.senderOpen id=true ∧ ∀ subscriber∈state.entry.subscribers,subscriber.id≠id:=by
 constructor
 · rintro ⟨hnothing,id,howner,hopen,_,hgone,_⟩
   exact ⟨hnothing,id,howner,hopen,hgone⟩
 · rintro ⟨hnothing,id,howner,hopen,hgone⟩
   refine ⟨hnothing,id,howner,hopen,?_,hgone,?_⟩
   · have hempty:=hfaithful.sent id
     rw [hnothing] at hempty
     rw [List.prefix_nil.mp hempty]
     exact Nat.zero_le _
   · unfold awaiting
     rw [hbusy hnothing]
     exact List.not_mem_nil

theorem letGo_iff (hfaithful:Faithful state) (hbusy:Busy state) (hbefore:¬EmptySuccess state)
  (hnothing:state.published=[]) :
  (∃ id,(state.channels id).owner=false ∧ state.senderOpen id=true) ↔ DuplicateAttached state:=by
 constructor
 · rintro ⟨id,howner,hopen⟩
   by_contra hnone
   refine hbefore ((emptySuccess_iff hfaithful hbusy).mpr ⟨hnothing,id,howner,hopen,?_⟩)
   rintro subscriber hmem rfl
   exact hnone ⟨subscriber,hmem,howner,hopen⟩
 · rintro ⟨subscriber,_,howner,hopen⟩
   exact ⟨subscriber.id,howner,hopen⟩

theorem swept_gone {id:ℕ} (hopen:state.senderOpen id=true)
  (hgone:∀ subscriber∈state.entry.subscribers.filter fun subscriber=>
   state.senderOpen subscriber.id,subscriber.id≠id) :
  ∀ subscriber∈state.entry.subscribers,subscriber.id≠id:=by
 rintro subscriber hmem rfl
 exact hgone subscriber (List.mem_filter.mpr ⟨hmem,hopen⟩) rfl

theorem subscribe_emptySuccess_iff (hfaithful:Faithful state) (hbusy:Busy state) (hbefore:¬EmptySuccess state) :
  EmptySuccess (state.subscribe env false).1 ↔ Empties state .subscribe:=by
 have hstep:SandStep env state .subscribe (state.subscribe env false).1:=rfl
 rw [emptySuccess_iff (faithful_step hfaithful hstep) (busy_step hbusy hstep)]
 rw [emptySuccess_iff hfaithful hbusy] at hbefore
 have hswept:∀ id,state.published=[] → (state.channels id).owner=false →
   state.senderOpen id=true → (∀ subscriber∈state.entry.subscribers.filter fun subscriber=>
    state.senderOpen subscriber.id,subscriber.id≠id) → False :=
  fun id hnothing howner hopen hgone=>
   hbefore ⟨hnothing,id,howner,hopen,swept_gone hopen hgone⟩
 unfold SandState.subscribe
 dsimp only
 split_ifs with htruncated hlimit hroom
 · refine iff_of_false hbefore fun hempties=>?_
   exact absurd htruncated (by simp [hempties.2.2])
 · refine iff_of_false (fun ⟨hnothing,id,howner,hopen,hgone⟩=>
    hswept id hnothing howner hopen hgone) fun hempties=>?_
   exact Option.isSome_iff_ne_none.mp hempties.2.1 (Option.isNone_iff_eq_none.mp hlimit.1)
 · refine iff_of_false (fun ⟨hnothing,id,howner,hopen,hgone⟩=>
    hswept id hnothing howner hopen hgone) fun hempties=>?_
   rw [hfaithful.replay hempties.2.2,hempties.1] at hroom
   exact absurd hroom (by decide)
 · rename_i hrunning
   refine iff_of_false ?_ fun hempties=>
    Option.isSome_iff_ne_none.mp hempties.2.1 (Option.isNone_iff_eq_none.mp hrunning)
   rintro ⟨hnothing,id,howner,hopen,hgone⟩
   by_cases hnew:id=state.nextSubscriberId
   · exact hgone ⟨state.nextSubscriberId,false⟩ (List.mem_append_right _ (List.mem_singleton_self _)) hnew.symm
   · simp only [SandState.senderOpen,Function.update_of_ne hnew] at howner hopen
     exact hswept id hnothing howner hopen
      fun subscriber hmem=>hgone subscriber (List.mem_append_left _ hmem)
 · rename_i hrunning
   constructor
   · rintro ⟨hnothing,_⟩
     refine ⟨hnothing,?_,Bool.eq_false_iff.mpr htruncated⟩
     simpa [Option.isSome_iff_ne_none] using hrunning
   · rintro ⟨hnothing,hfinished,_⟩
     refine ⟨hnothing,state.nextSubscriberId,?_,?_,?_⟩
     · simp [replayChannel_frame]
     · simp [SandState.senderOpen,replayChannel_frame]
     · rw [hfaithful.settled hfinished]
       exact fun _ hmem=>absurd hmem List.not_mem_nil

theorem dropOwner_emptySuccess_iff (hfaithful:Faithful state) (hbusy:Busy state) (hbefore:¬EmptySuccess state) {now:ℕ}
  (hstep:SandStep env state (.dropOwner now) (state.dropOwner now)) :
  EmptySuccess (state.dropOwner now) ↔ Empties state (.dropOwner now):=by
 have hafter:=faithful_step hfaithful hstep
 have hquiet:=busy_step hbusy hstep
 by_cases hphase:state.phase=.opening ∨ state.phase=.failing ∨ state.phase=.failed
 · by_cases hunfinished:state.entry.finishedAt=none
   · have hdropped:state.dropOwner now={ state with
       entry := { state.entry with
        finishedAt := some now,replayTruncated := true,subscribers := [] }
       publication := none
       phase := .dropped }:=by
      unfold SandState.dropOwner
      rcases hphase with hphase | hphase | hphase <;> simp [hphase,hunfinished]
     rw [emptySuccess_iff hafter hquiet,hdropped]
     constructor
     · rintro ⟨hnothing,id,howner,hopen,_⟩
       exact ⟨hnothing,hphase,hunfinished,(letGo_iff hfaithful hbusy hbefore hnothing).mp ⟨id,howner,hopen⟩⟩
     · rintro ⟨hnothing,_,_,hattached⟩
       obtain ⟨id,howner,hopen⟩:=(letGo_iff hfaithful hbusy hbefore hnothing).mpr hattached
       exact ⟨hnothing,id,howner,hopen,fun _ hmem=>absurd hmem List.not_mem_nil⟩
   · have hdropped:state.dropOwner now = { state with publication := none,phase := .dropped }:=by
      unfold SandState.dropOwner
      rcases hphase with hphase | hphase | hphase <;> simp [hphase,hunfinished]
     rw [emptySuccess_iff hafter hquiet,hdropped]
     rw [emptySuccess_iff hfaithful hbusy] at hbefore
     exact iff_of_false hbefore fun hempties=>hunfinished hempties.2.2.1
 · have hdropped:state.dropOwner now=state:=by
    unfold SandState.dropOwner
    split
    · rfl
    · rfl
    · rfl
    all_goals
     rename_i hcurrent
     exact absurd hphase (by simp [hcurrent])
   rw [hdropped]
   exact iff_of_false hbefore fun hempties=>hphase hempties.2.1

theorem emptySuccess_step_iff (hfaithful:Faithful state) (hbusy:Busy state)
  (hbefore:¬EmptySuccess state) (hstep:SandStep env state action next) :
  EmptySuccess next ↔ Empties state action:=by
 have hafter:=faithful_step hfaithful hstep
 have hquiet:=busy_step hbusy hstep
 cases hstep.effect with
 | subscribed=>exact subscribe_emptySuccess_iff hfaithful hbusy hbefore
 | forwarded _=>exact iff_of_false hbefore (fun hempties=>hempties.2)
 | began _ event phase _ haction=>
  refine iff_of_false (fun hempty=>?_) (fun hempties=>?_)
  · exact absurd hempty.1 (by simp [SandState.beginPublish])
  · rcases haction with rfl | ⟨_,rfl⟩ <;> exact hempties.2
 | delivered _ publication _ _ _ hpublication=>
  have hsome:state.published≠[]:=fun hnothing=>by simp [hbusy hnothing] at hpublication
  exact iff_of_false (fun hempty=>hsome hempty.1) (fun hempties=>hsome hempties.1)
 | refused _ publication _ _ _ hpublication=>
  have hsome:state.published≠[]:=fun hnothing=>by simp [hbusy hnothing] at hpublication
  exact iff_of_false (fun hempty=>hsome hempty.1) (fun hempties=>hsome hempties.1)
 | settled publication hpublication=>
  have hsome:state.published≠[]:=fun hnothing=>by simp [hbusy hnothing] at hpublication
  exact iff_of_false (fun hempty=>hsome hempty.1) (fun hempties=>hsome hempties.1)
 | finished now phase _=>
  rw [emptySuccess_iff hafter hquiet]
  constructor
  · rintro ⟨hnothing,id,howner,hopen,_⟩
    exact ⟨hnothing,(letGo_iff hfaithful hbusy hbefore hnothing).mp ⟨id,howner,hopen⟩⟩
  · rintro ⟨hnothing,hattached⟩
    obtain ⟨id,howner,hopen⟩:=(letGo_iff hfaithful hbusy hbefore hnothing).mpr hattached
    exact ⟨hnothing,id,howner,hopen,fun _ hmem=>absurd hmem List.not_mem_nil⟩
 | dropped now=>exact dropOwner_emptySuccess_iff hfaithful hbusy hbefore hstep
 | receiver _ id channel hsent hopen howner haction=>
  refine iff_of_false ?_ fun hempties=>?_
  · rw [emptySuccess_iff hafter hquiet]
    rw [emptySuccess_iff hfaithful hbusy] at hbefore
    rintro ⟨hnothing,other,hduplicate,hsender,hgone⟩
    refine hbefore ⟨hnothing,other,?_,?_,hgone⟩
    · by_cases hother:other=id
      · subst hother
        simpa [SandState.withChannel,howner] using hduplicate
      · simpa [SandState.withChannel,hother] using hduplicate
    · by_cases hother:other=id
      · subst hother
        exact hopen (by simpa [SandState.withChannel,SandState.senderOpen] using hsender)
      · simpa [SandState.withChannel,SandState.senderOpen,hother] using hsender
  · rcases haction with rfl | rfl <;> exact hempties.2

theorem admitted_closed (env:SandEnv) (id:ℕ) (hduplicate:((SandState.admitted env).channels id).owner=false) :
  (SandState.admitted env).senderOpen id=false:=by
 revert hduplicate
 unfold SandState.admitted SandState.subscribe
 dsimp only
 split_ifs
 · exact fun _=>rfl
 · exact fun _=>rfl
 · exact fun _=>rfl
 all_goals
  unfold SandState.senderOpen
  dsimp only
  by_cases hid:id=(SandState.new env).nextSubscriberId
  · rw [hid,Function.update_self]
    exact fun howner=>absurd howner (by simp [replayChannel_frame])
  · rw [Function.update_of_ne hid]
    exact fun _=>rfl

theorem sandStep_unique {left right:SandState} (hleft:SandStep env state action left)
  (hright:SandStep env state action right) : left=right :=
 Option.some.inj (hleft.symm.trans hright)

/-- The owner goes away before the upstream is open; one duplicate is attached. -/
def abandonedActions : List SandAction := [.subscribe,.dropOwner 0]

def completedActions : List SandAction :=
 [.subscribe,.forwardFrom,.publish (.ok (.cursor .end)),.sendOwner true,.sendRetry,.settle,
  .finish 0,.subscribe,.dropOwner 1]

end CursorProxy.SandAbandonment
