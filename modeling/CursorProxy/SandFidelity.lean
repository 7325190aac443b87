import CursorProxy.SandModel
import CursorProxy.Traces

namespace CursorProxy.SandFidelity
open SandModel Traces

variable {env:SandEnv} {state next:SandState} {event:LiveEventResult}

def SandStep (env:SandEnv) (state:SandState) (action:SandAction) (next:SandState) : Prop :=
 state.step env action=some next

/-- What a step does, the guard it passed included. Serving an owner and serving
a retry differ in the lists they take the sender from. -/
inductive SandEffect (env:SandEnv) (state:SandState) : SandAction → SandState → Prop where
 | subscribed : SandEffect env state .subscribe (state.subscribe env false).1
 | forwarded (hphase:state.phase=.opening) :
   SandEffect env state .forwardFrom { state with phase := .forwarding }
 | began (action:SandAction) (event:LiveEventResult) (phase:OwnerPhase)
   (hidle:state.publication=none)
   (haction:action=.publish event ∨ ∃ message,action=.fail message)
   (hphase:(state.phase=.opening ∧ phase=.failing) ∨
    (state.phase=.forwarding ∧ phase=.forwarding)) :
   SandEffect env state action { state.beginPublish env event with phase }
 | delivered (action:SandAction) (publication served:Publication) (id:ℕ) (rest:List ℕ)
   (hpublication:state.publication=some publication)
   (hhead:publication.ownerSenders++publication.retrySenders=id::rest)
   (hroom:(state.channels id).hasRoom=true) (hevent:served.event=publication.event)
   (hrest:served.ownerSenders++served.retrySenders=rest)
   (hfailed:served.failedIds=publication.failedIds) :
   SandEffect env state action
    { state.put id publication.event with publication := some served }
 | refused (action:SandAction) (publication served:Publication) (id:ℕ) (rest:List ℕ)
   (hpublication:state.publication=some publication)
   (hhead:publication.ownerSenders++publication.retrySenders=id::rest)
   (hevent:served.event=publication.event)
   (hrest:served.ownerSenders++served.retrySenders=rest)
   (hfailed:served.failedIds=id::publication.failedIds) :
   SandEffect env state action { state with publication := some served }
 | settled (publication:Publication) (hpublication:state.publication=some publication)
   (howners:publication.ownerSenders=[]) (hretries:publication.retrySenders=[]) :
   SandEffect env state .settle (state.settle publication)
 | finished (now:ℕ) (phase:OwnerPhase) (hidle:state.publication=none)
   (hphase:(state.phase=.forwarding ∧ phase=.ended) ∨
    (state.phase=.failing ∧ phase=.failed)) :
   SandEffect env state (.finish now) (state.finish now phase)
 | dropped (now:ℕ) : SandEffect env state (.dropOwner now) (state.dropOwner now)
 | receiver (action:SandAction) (id:ℕ) (channel:Channel)
   (hsent:channel.sent=(state.channels id).sent)
   (hopen:channel.receiverOpen=true → state.senderOpen id=true)
   (howner:channel.owner=(state.channels id).owner)
   (haction:action=.receive id ∨ action=.closeReceiver id) :
   SandEffect env state action (state.withChannel id channel)

theorem SandStep.effect {action:SandAction} (hstep:SandStep env state action next) :
  SandEffect env state action next:=by
 unfold SandStep SandState.step at hstep
 cases action with
 | subscribe=>
  obtain rfl:=Option.some.inj hstep
  exact .subscribed
 | forwardFrom=>
  dsimp only at hstep
  split_ifs at hstep with hphase
  obtain rfl:=Option.some.inj hstep
  exact .forwarded hphase
 | fail message=>
  dsimp only at hstep
  split_ifs at hstep with hguard
  obtain rfl:=Option.some.inj hstep
  exact .began _ (.error message) .failing (Option.isNone_iff_eq_none.mp hguard.2)
   (.inr ⟨message,rfl⟩) (.inl ⟨hguard.1,rfl⟩)
 | publish event=>
  dsimp only at hstep
  split_ifs at hstep with hguard
  obtain rfl:=Option.some.inj hstep
  have hsame:state.beginPublish env event = { state.beginPublish env event with phase := .forwarding }:=by
   rw [← hguard.1]
   rfl
  rw [hsame]
  exact .began _ event .forwarding (Option.isNone_iff_eq_none.mp hguard.2) (.inl rfl) (.inr ⟨hguard.1,rfl⟩)
 | sendOwner delivered=>
  dsimp only at hstep
  split at hstep
  · rename_i publication hpublication
    split at hstep
    · exact absurd hstep (by simp)
    · rename_i id ownerSenders howners
      have hhead:publication.ownerSenders++publication.retrySenders =
        id::(ownerSenders++publication.retrySenders):=by
       rw [howners]
       rfl
      split_ifs at hstep with hdelivered hroom
      · obtain rfl:=Option.some.inj hstep
        exact .delivered _ publication _ id _ hpublication hhead hroom rfl rfl rfl
      · obtain rfl:=Option.some.inj hstep
        exact .refused _ publication _ id _ hpublication hhead rfl rfl rfl
  · exact absurd hstep (by simp)
 | sendRetry=>
  dsimp only at hstep
  split at hstep
  · rename_i publication hpublication
    split at hstep
    · rename_i id retrySenders howners hretries
      have hhead:publication.ownerSenders++publication.retrySenders=id::retrySenders:=by
       rw [howners,hretries]
       rfl
      have hrest:publication.ownerSenders++retrySenders=retrySenders:=by
       rw [howners]
       rfl
      split_ifs at hstep with hroom
      · obtain rfl:=Option.some.inj hstep
        exact .delivered _ publication _ id _ hpublication hhead hroom rfl hrest rfl
      · obtain rfl:=Option.some.inj hstep
        exact .refused _ publication _ id _ hpublication hhead rfl hrest rfl
    · exact absurd hstep (by simp)
  · exact absurd hstep (by simp)
 | settle=>
  dsimp only at hstep
  split at hstep
  · rename_i publication hpublication
    split_ifs at hstep with hempty
    obtain rfl:=Option.some.inj hstep
    exact .settled publication hpublication (List.isEmpty_iff.mp hempty.1) (List.isEmpty_iff.mp hempty.2)
  · exact absurd hstep (by simp)
 | finish now=>
  dsimp only at hstep
  split_ifs at hstep with hidle
  rw [Option.isNone_iff_eq_none] at hidle
  split at hstep
  · rename_i hphase
    obtain rfl:=Option.some.inj hstep
    exact .finished now .ended hidle (.inl ⟨hphase,rfl⟩)
  · rename_i hphase
    obtain rfl:=Option.some.inj hstep
    exact .finished now .failed hidle (.inr ⟨hphase,rfl⟩)
  · exact absurd hstep (by simp)
 | dropOwner now=>
  obtain rfl:=Option.some.inj hstep
  exact .dropped now
 | receive id=>
  dsimp only at hstep
  split_ifs at hstep
  obtain rfl:=Option.some.inj hstep
  exact .receiver _ id _ rfl (fun h=>h) rfl (.inl rfl)
 | closeReceiver id=>
  obtain rfl:=Option.some.inj hstep
  exact .receiver _ id _ rfl (fun h=>Bool.noConfusion h) rfl (.inr rfl)

/-- The senders of the running publication that are still to be served. -/
def awaiting (state:SandState) : List ℕ :=
 match state.publication with
 | some publication=>publication.ownerSenders++publication.retrySenders
 | none=>[]

/-- The subscribers the running publication could not serve. -/
def failing (state:SandState) : List ℕ :=
 match state.publication with
 | some publication=>publication.failedIds
 | none=>[]

/-- Every channel holds a prefix of what was published; an attached and open one
holds all of it, but for the event of a running publication it still awaits. -/
structure Faithful (state:SandState) : Prop where
 replay : state.entry.replayTruncated=false → state.entry.replay=state.published
 settled : state.entry.finishedAt.isSome → state.entry.subscribers=[]
 fresh : ∀ subscriber∈state.entry.subscribers,subscriber.id<state.nextSubscriberId
 distinct : (state.entry.subscribers.map (·.id)).Nodup
 sent : ∀ id,(state.channels id).sent <+: state.published
 complete : ∀ subscriber∈state.entry.subscribers,state.senderOpen subscriber.id=true →
  subscriber.id ∉ awaiting state → subscriber.id ∉ failing state → (state.channels subscriber.id).sent=state.published
 awaitingFresh : ∀ id∈awaiting state,id<state.nextSubscriberId
 awaitingDistinct : (awaiting state).Nodup
 behind : ∀ publication,state.publication=some publication → ∀ id∈awaiting state,
  state.senderOpen id=true → (state.channels id).sent++[publication.event]=state.published

theorem trySend_room {channel:Channel} (h:channel.hasRoom=true) :
  channel.trySend event={ channel with sent := channel.sent++[event] } := if_pos h

theorem foldl_trySend_sent (events:List LiveEventResult) (channel:Channel)
  (hopen:channel.receiverOpen=true) (hreceived:channel.received=0)
  (hroom:channel.sent.length+events.length ≤ channel.capacity) :
  events.foldl Channel.trySend channel = { channel with sent := channel.sent++events }:=by
 induction events generalizing channel with
 | nil=>simp
 | cons event events ih=>
  rw [List.length_cons] at hroom
  have hhas:channel.hasRoom=true:=by
   simp only [Channel.hasRoom,hopen,hreceived,Bool.true_and,decide_eq_true_eq]
   omega
  have hrest:=ih { channel with sent := channel.sent++[event] } hopen hreceived
   (by simp only [List.length_append,List.length_singleton]; omega)
  rw [List.foldl_cons,trySend_room hhas,hrest]
  simp

theorem replayChannel_sent (owner:Bool) {replay:List LiveEventResult}
  (h:¬maxSubscriberReplayQueue ≤ replay.length) : (replayChannel owner replay).sent=replay:=by
 unfold replayChannel
 dsimp only
 rw [foldl_trySend_sent replay _ rfl rfl]
 · rfl
 · simp only [List.length_nil,Nat.zero_add]
   omega

theorem makeRoom_untruncated {capacity byteCapacity eventBytes:ℕ} (replay:List LiveEventResult)
  (bytes:ℕ) (truncated:Bool) (h:(makeRoom env capacity byteCapacity eventBytes replay bytes truncated).2.2=false) :
  (makeRoom env capacity byteCapacity eventBytes replay bytes truncated).1=replay ∧ truncated=false:=by
 induction replay generalizing bytes truncated with
 | nil=>exact ⟨rfl,h⟩
 | cons oldest replay ih=>
  unfold makeRoom at h ⊢
  split_ifs at h ⊢
  · exact Bool.noConfusion (ih _ true h).2
  · exact ⟨rfl,h⟩

theorem appendReplay_untruncated {entry:SandOperationEntry} (h:(appendReplay env entry event).replayTruncated=false) :
  (appendReplay env entry event).replay=entry.replay++[event] ∧ entry.replayTruncated=false:=by
 unfold appendReplay at h ⊢
 dsimp only at h ⊢
 split_ifs at h ⊢
 obtain ⟨hreplay,htruncated⟩:=makeRoom_untruncated _ _ _ h
 exact ⟨congrArg (· ++ [event]) hreplay,htruncated⟩

theorem appendReplay_frame (env:SandEnv) (entry:SandOperationEntry) (event:LiveEventResult) :
  (appendReplay env entry event).subscribers=entry.subscribers ∧
   (appendReplay env entry event).finishedAt=entry.finishedAt:=by
 unfold appendReplay
 dsimp only
 split_ifs <;> exact ⟨rfl,rfl⟩

namespace Faithful

theorem new (env:SandEnv) : Faithful (SandState.new env) where
 replay _ := rfl
 settled _ := rfl
 fresh _ h := absurd h List.not_mem_nil
 distinct := List.nodup_nil
 sent _ := List.prefix_refl _
 complete _ h := absurd h List.not_mem_nil
 awaitingFresh _ h := absurd h List.not_mem_nil
 awaitingDistinct := List.nodup_nil
 behind _ h := absurd h (by simp [SandState.new])

theorem retain (h:Faithful state) {retained:List SandOperationSubscriber}
  (hsub:retained.Sublist state.entry.subscribers) :
  Faithful { state with entry := { state.entry with subscribers := retained } } where
 replay := h.replay
 settled hfinished:=by
  rw [h.settled hfinished] at hsub
  exact List.sublist_nil.mp hsub
 fresh subscriber hmem := h.fresh subscriber (hsub.subset hmem)
 distinct := h.distinct.sublist (hsub.map _)
 sent := h.sent
 complete subscriber hmem := h.complete subscriber (hsub.subset hmem)
 awaitingFresh := h.awaitingFresh
 awaitingDistinct := h.awaitingDistinct
 behind := h.behind

theorem receiver (h:Faithful state) {id:ℕ} {channel:Channel} (hsent:channel.sent=(state.channels id).sent)
  (hopen:channel.receiverOpen=true → state.senderOpen id=true) : Faithful (state.withChannel id channel):=by
 have hchannels:∀ other,((state.withChannel id channel).channels other).sent = (state.channels other).sent:=by
  intro other
  by_cases hother:other=id
  · subst hother
    simpa [SandState.withChannel] using hsent
  · simp [SandState.withChannel,hother]
 have hopens:∀ other,(state.withChannel id channel).senderOpen other=true → state.senderOpen other=true:=by
  intro other
  by_cases hother:other=id
  · subst hother
    simpa [SandState.withChannel,SandState.senderOpen] using hopen
  · simp [SandState.withChannel,SandState.senderOpen,hother]
 refine ⟨h.replay,h.settled,h.fresh,h.distinct,?_,?_,h.awaitingFresh,h.awaitingDistinct,?_⟩
 · intro other
   rw [hchannels other]
   exact h.sent other
 · intro subscriber hmem hsubscriber hawaiting hfailing
   rw [hchannels subscriber.id]
   exact h.complete subscriber hmem (hopens _ hsubscriber) hawaiting hfailing
 · intro publication hpublication other hother hsender
   rw [hchannels other]
   exact h.behind publication hpublication other hother (hopens _ hsender)

theorem attach (h:Faithful state) {attached:List SandOperationSubscriber} (owner:Bool)
  (htruncated:state.entry.replayTruncated=false) (hroom:¬maxSubscriberReplayQueue ≤ state.entry.replay.length)
  (hattached:state.entry.finishedAt.isSome → attached=[])
  (hmem:∀ subscriber∈attached,subscriber∈state.entry.subscribers ∨
   subscriber.id=state.nextSubscriberId) (hdistinct:(attached.map (·.id)).Nodup) :
  Faithful { state with
   entry := { state.entry with subscribers := attached }
   channels := Function.update state.channels state.nextSubscriberId (replayChannel owner state.entry.replay)
   nextSubscriberId := state.nextSubscriberId+1 }:=by
 have hreplay:(replayChannel owner state.entry.replay).sent=state.published:=by
  rw [replayChannel_sent owner hroom,h.replay htruncated]
 refine ⟨h.replay,hattached,?_,hdistinct,?_,?_,?_,h.awaitingDistinct,?_⟩
 · intro subscriber hsubscriber
   rcases hmem subscriber hsubscriber with hold | hnew
   · exact Nat.lt_succ_of_lt (h.fresh subscriber hold)
   · rw [hnew]
     exact Nat.lt_succ_self _
 · intro id
   by_cases hid:id=state.nextSubscriberId
   · subst hid
     simp only [Function.update_self,hreplay]
     exact List.prefix_refl _
   · simp only [Function.update_of_ne hid]
     exact h.sent id
 · intro subscriber hsubscriber hsender hawaiting hfailing
   by_cases hid:subscriber.id=state.nextSubscriberId
   · simp only [hid,Function.update_self,hreplay]
   · simp only [SandState.senderOpen,Function.update_of_ne hid] at hsender ⊢
     rcases hmem subscriber hsubscriber with hold | hnew
     · exact h.complete subscriber hold hsender hawaiting hfailing
     · exact absurd hnew hid
 · exact fun id hid=>Nat.lt_succ_of_lt (h.awaitingFresh id hid)
 · intro publication hpublication id hid hsender
   have hne:id≠state.nextSubscriberId:=Nat.ne_of_lt (h.awaitingFresh id hid)
   simp only [SandState.senderOpen,Function.update_of_ne hne] at hsender ⊢
   exact h.behind publication hpublication id hid hsender

theorem subscribe (h:Faithful state) (owner:Bool) : Faithful (state.subscribe env owner).1:=by
 unfold SandState.subscribe
 dsimp only
 have hswept:(state.entry.subscribers.filter fun subscriber=>
   state.senderOpen subscriber.id).Sublist state.entry.subscribers := List.filter_sublist
 split_ifs with htruncated hlimit hqueue hfinished
 · exact h
 · exact h.retain hswept
 · exact h.retain hswept
 · refine h.attach owner (Bool.not_eq_true _ ▸ htruncated) hqueue ?_ ?_ ?_
   · intro hsome
     rw [Option.isNone_iff_eq_none] at hfinished
     rw [hfinished] at hsome
     exact Bool.noConfusion hsome
   · intro subscriber hsubscriber
     rcases List.mem_append.mp hsubscriber with hold | hnew
     · exact .inl (hswept.subset hold)
     · exact .inr (congrArg (·.id) (List.mem_singleton.mp hnew))
   · rw [List.map_append,List.map_singleton]
     refine List.nodup_append.mpr ⟨h.distinct.sublist (hswept.map _),List.nodup_singleton _,?_⟩
     intro id hid other hother heq
     obtain ⟨subscriber,hsubscriber,rfl⟩:=List.mem_map.mp hid
     rw [List.mem_singleton.mp hother] at heq
     exact Nat.ne_of_lt (h.fresh subscriber (hswept.subset hsubscriber)) heq
 · refine h.attach owner (Bool.not_eq_true _ ▸ htruncated) hqueue ?_ ?_ ?_
   · intro hsome
     rw [h.settled hsome]
     rfl
   · exact fun subscriber hsubscriber=>.inl (hswept.subset hsubscriber)
   · exact h.distinct.sublist (hswept.map _)

theorem mem_senders {subscribers:List SandOperationSubscriber} {id:ℕ} :
  id∈(subscribers.filter fun subscriber=>subscriber.owner).map (·.id) ++
    (subscribers.filter fun subscriber=>!subscriber.owner).map (·.id) ↔
   ∃ subscriber∈subscribers,subscriber.id=id:=by
 have hperm:=(List.filter_append_perm (fun subscriber=>subscriber.owner) subscribers).map
  (fun subscriber=>subscriber.id)
 rw [List.map_append] at hperm
 rw [hperm.mem_iff,List.mem_map]

/-- The first critical section: whoever is attached is in the snapshot and awaits
the event, which is in the replay of all who come later. -/
theorem beginPublish (h:Faithful state) (hidle:state.publication=none)
  (event:LiveEventResult) : Faithful (state.beginPublish env event):=by
 obtain ⟨hsubscribers,hfinished⟩:=appendReplay_frame env state.entry event
 have hawaitingBefore:awaiting state=[]:=by
  unfold awaiting
  rw [hidle]
 have hfailingBefore:failing state=[]:=by
  unfold failing
  rw [hidle]
 refine ⟨?_,?_,?_,?_,?_,?_,?_,?_,?_⟩
 · intro htruncated
   obtain ⟨hreplay,hbefore⟩:=appendReplay_untruncated htruncated
   exact hreplay.trans (congrArg (· ++ [event]) (h.replay hbefore))
 · intro hsome
   change (appendReplay env state.entry event).finishedAt.isSome=true at hsome
   rw [hfinished] at hsome
   exact hsubscribers.trans (h.settled hsome)
 · intro subscriber hmem
   exact h.fresh subscriber (hsubscribers ▸ hmem)
 · change ((appendReplay env state.entry event).subscribers.map _).Nodup
   rw [hsubscribers]
   exact h.distinct
 · exact fun id=>(h.sent id).trans (List.prefix_append _ _)
 · intro subscriber hmem _ hawaiting _
   refine absurd (mem_senders.mpr ⟨subscriber,hsubscribers ▸ hmem,rfl⟩) hawaiting
 · intro id hid
   obtain ⟨subscriber,hmem,rfl⟩:=mem_senders.mp hid
   exact h.fresh subscriber hmem
 · have hperm:=(List.filter_append_perm (fun subscriber=>subscriber.owner)
    state.entry.subscribers).map (fun subscriber=>subscriber.id)
   rw [List.map_append] at hperm
   exact hperm.nodup_iff.mpr h.distinct
 · intro publication hpublication id hid hsender
   obtain rfl:=Option.some.inj hpublication
   obtain ⟨subscriber,hmem,rfl⟩:=mem_senders.mp hid
   refine congrArg (· ++ [event]) (h.complete subscriber hmem hsender ?_ ?_)
   · rw [hawaitingBefore]
     exact List.not_mem_nil
   · rw [hfailingBefore]
     exact List.not_mem_nil

variable {publication served:Publication} {id:ℕ} {rest:List ℕ}

theorem awaiting_some (h:state.publication=some publication) :
  awaiting state=publication.ownerSenders++publication.retrySenders:=by
 unfold awaiting
 rw [h]

theorem failing_some (h:state.publication=some publication) : failing state=publication.failedIds:=by
 unfold failing
 rw [h]

theorem withPhase (h:Faithful state) (phase:OwnerPhase) : Faithful { state with phase } :=
 ⟨h.replay,h.settled,h.fresh,h.distinct,h.sent,h.complete,h.awaitingFresh,h.awaitingDistinct,h.behind⟩

theorem deliver (h:Faithful state) (hpublication:state.publication=some publication)
  (hhead:publication.ownerSenders++publication.retrySenders=id::rest)
  (hroom:(state.channels id).hasRoom=true) (hevent:served.event=publication.event)
  (hrest:served.ownerSenders++served.retrySenders=rest) (hfailed:served.failedIds=publication.failedIds) :
  Faithful { state.put id publication.event with publication := some served }:=by
 have hawaiting:awaiting state=id::rest:=(awaiting_some hpublication).trans hhead
 have hafter:awaiting { state.put id publication.event with publication:=some served }=rest :=
  hrest
 obtain ⟨hnotin,hnodup⟩:=List.nodup_cons.mp (hawaiting ▸ h.awaitingDistinct)
 have hopen:state.senderOpen id=true:=(Bool.and_eq_true_iff.mp hroom).1
 have hcaught:((state.channels id).trySend publication.event).sent=state.published:=by
  rw [trySend_room hroom]
  exact h.behind publication hpublication id (hawaiting ▸ List.mem_cons_self) hopen
 have hother:∀ other,other≠id →
   (state.put id publication.event).channels other=state.channels other := fun other hne=>
  Function.update_of_ne hne _ _
 have hself:(state.put id publication.event).channels id =
   (state.channels id).trySend publication.event := Function.update_self _ _ _
 refine ⟨h.replay,h.settled,h.fresh,h.distinct,?_,?_,?_,?_,?_⟩
 · intro other
   by_cases hne:other=id
   · change ((state.put id publication.event).channels other).sent <+: state.published
     rw [hne,hself,hcaught]
   · change ((state.put id publication.event).channels other).sent <+: state.published
     rw [hother other hne]
     exact h.sent other
 · intro subscriber hmem hsender hwaiting hfailing
   change ((state.put id publication.event).channels subscriber.id).sent=state.published
   by_cases hne:subscriber.id=id
   · rw [hne,hself,hcaught]
   · rw [hother _ hne]
     refine h.complete subscriber hmem ?_ ?_ ?_
     · change ((state.put id publication.event).channels subscriber.id).receiverOpen=true
        at hsender
       rwa [hother _ hne] at hsender
     · rw [hawaiting]
       rw [hafter] at hwaiting
       exact fun hold=>hwaiting ((List.mem_cons.mp hold).resolve_left hne)
     · rw [failing_some hpublication,← hfailed]
       exact hfailing
 · intro other hwaiting
   rw [hafter] at hwaiting
   exact h.awaitingFresh other (hawaiting ▸ List.mem_cons_of_mem _ hwaiting)
 · rw [hafter]
   exact hnodup
 · intro current hcurrent other hwaiting hsender
   obtain rfl:=Option.some.inj hcurrent
   rw [hafter] at hwaiting
   have hne:other≠id:=fun heq=>hnotin (heq ▸ hwaiting)
   change ((state.put id publication.event).channels other).receiverOpen=true at hsender
   change ((state.put id publication.event).channels other).sent++[_]=state.published
   rw [hother other hne] at hsender ⊢
   rw [hevent]
   exact h.behind publication hpublication other (hawaiting ▸ List.mem_cons_of_mem _ hwaiting) hsender

theorem refuse (h:Faithful state) (hpublication:state.publication=some publication)
  (hhead:publication.ownerSenders++publication.retrySenders=id::rest)
  (hevent:served.event=publication.event) (hrest:served.ownerSenders++served.retrySenders=rest)
  (hfailed:served.failedIds=id::publication.failedIds) : Faithful { state with publication := some served }:=by
 have hawaiting:awaiting state=id::rest:=(awaiting_some hpublication).trans hhead
 have hafter:awaiting { state with publication:=some served }=rest := hrest
 have hnodup:=(List.nodup_cons.mp (hawaiting ▸ h.awaitingDistinct)).2
 refine ⟨h.replay,h.settled,h.fresh,h.distinct,h.sent,?_,?_,?_,?_⟩
 · intro subscriber hmem hsender hwaiting hfailing
   change subscriber.id ∉ served.failedIds at hfailing
   rw [hfailed] at hfailing
   rw [hafter] at hwaiting
   refine h.complete subscriber hmem hsender ?_ ?_
   · rw [hawaiting]
     intro hold
     rcases List.mem_cons.mp hold with hself | htail
     · exact hfailing (hself ▸ List.mem_cons_self)
     · exact hwaiting htail
   · rw [failing_some hpublication]
     exact fun hold=>hfailing (List.mem_cons_of_mem _ hold)
 · intro other hwaiting
   rw [hafter] at hwaiting
   exact h.awaitingFresh other (hawaiting ▸ List.mem_cons_of_mem _ hwaiting)
 · rw [hafter]
   exact hnodup
 · intro current hcurrent other hwaiting hsender
   obtain rfl:=Option.some.inj hcurrent
   rw [hafter] at hwaiting
   rw [hevent]
   exact h.behind publication hpublication other (hawaiting ▸ List.mem_cons_of_mem _ hwaiting) hsender

theorem settle (h:Faithful state) (hpublication:state.publication=some publication)
  (howners:publication.ownerSenders=[]) (hretries:publication.retrySenders=[]) :
  Faithful (state.settle publication):=by
 have hawaiting:awaiting state=[]:=by
  rw [awaiting_some hpublication,howners,hretries]
  rfl
 have hsub:(state.settle publication).entry.subscribers.Sublist state.entry.subscribers :=
  List.filter_sublist
 refine ⟨h.replay,?_,fun subscriber hmem=>h.fresh subscriber (hsub.subset hmem),
  h.distinct.sublist (hsub.map _),h.sent,?_,fun _ hid=>absurd hid List.not_mem_nil,
  List.nodup_nil,fun _ hnone=>absurd hnone (by simp [SandState.settle])⟩
 · intro hfinished
   have hnil:=h.settled hfinished
   rw [hnil] at hsub
   exact List.sublist_nil.mp hsub
 · intro subscriber hmem hsender _ _
   obtain ⟨hold,hkept⟩:=List.mem_filter.mp hmem
   refine h.complete subscriber hold hsender ?_ ?_
   · rw [hawaiting]
     exact List.not_mem_nil
   · rw [failing_some hpublication]
     simp only [Bool.not_eq_true',Bool.or_eq_false_iff,List.contains_eq_mem,
      decide_eq_false_iff_not] at hkept
     exact hkept.1.1

theorem close (h:Faithful state) (now:Option ℕ) (phase:OwnerPhase) (truncated:Bool)
  (htruncated:truncated=false → state.entry.replayTruncated=false) :
  Faithful { state with
   entry := { state.entry with
    finishedAt := now,replayTruncated := truncated,subscribers := [] }
   publication := none
   phase } where
 replay hkept := h.replay (htruncated hkept)
 settled _ := rfl
 fresh _ hmem := absurd hmem List.not_mem_nil
 distinct := List.nodup_nil
 sent := h.sent
 complete _ hmem := absurd hmem List.not_mem_nil
 awaitingFresh _ hid := absurd hid List.not_mem_nil
 awaitingDistinct := List.nodup_nil
 behind _ hnone := absurd hnone (by simp)

end Faithful

theorem faithful_step {action:SandAction} (h:Faithful state)
  (hstep:SandStep env state action next) : Faithful next:=by
 cases hstep.effect with
 | subscribed=>exact h.subscribe false
 | forwarded _=>exact h.withPhase .forwarding
 | began _ event phase hidle=>exact (h.beginPublish hidle event).withPhase phase
 | delivered _ _ _ _ _ hpublication hhead hroom hevent hrest hfailed=>
  exact h.deliver hpublication hhead hroom hevent hrest hfailed
 | refused _ _ _ _ _ hpublication hhead hevent hrest hfailed=>
  exact h.refuse hpublication hhead hevent hrest hfailed
 | settled _ hpublication howners hretries=>exact h.settle hpublication howners hretries
 | finished now phase hidle=>
  have hclosed:=h.close (some now) phase state.entry.replayTruncated id
  unfold SandState.finish
  rw [← hidle] at hclosed
  exact hclosed
 | dropped now=>
  unfold SandState.dropOwner
  split
  · exact h
  · exact h
  · exact h
  all_goals
   dsimp only
   split_ifs with hunfinished
   · exact h.close (some now) .dropped true (fun htrue=>Bool.noConfusion htrue)
   · have hclosed:=h.close state.entry.finishedAt .dropped state.entry.replayTruncated id
     rw [← h.settled (by simpa [Option.isSome_iff_ne_none] using hunfinished)] at hclosed
     exact hclosed
 | receiver _ id channel hsent hopen _ _=>exact h.receiver hsent hopen

def defaultEnv : SandEnv := ⟨none,none,none,none,none,fun _=>none⟩

/-- A duplicate attaches before, and one in the middle of, the first publication. -/
def joiningActions : List SandAction :=
 [.subscribe,.forwardFrom,.publish (.ok (.cursor (.textDelta "a"))),.subscribe,.sendOwner true,
  .sendRetry,.settle,.publish (.ok (.cursor .end)),.sendOwner true,.sendRetry]

end CursorProxy.SandFidelity
