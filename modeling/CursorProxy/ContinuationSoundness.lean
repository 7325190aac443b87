import CursorProxy.ContinuationModel
import CursorProxy.PromptSignatures

/-! Whatever the interleaving, the state that a candidate takes out of the registry is that of
the last record of the turn that was started last for its session. -/
namespace CursorProxy.ContinuationSoundness
open JsonValues AtomicSections CodexReducer CodexRequests PromptSignatures ContinuationModel

variable {outside:Outside} {registry:ContinuationRegistry} {past:List Past} {sessionId:String} {turnId:ℕ}

/-- Each session of the first is one of the second, as it is there. -/
def Fewer (registry other:ContinuationRegistry) : Prop :=
 ∀ sessionId session,registry.sessions.lookup sessionId=some session → other.sessions.lookup sessionId=some session

theorem Fewer.refl (registry:ContinuationRegistry) : Fewer registry registry :=
 fun _ _ h=>h

theorem Fewer.trans {registry other last:ContinuationRegistry} (h:Fewer registry other)
  (h':Fewer other last) : Fewer registry last :=
 fun sessionId session hsession=>h' sessionId session (h sessionId session hsession)

variable {other:String}

theorem remove_other (hne:other≠sessionId) :
  (registry.remove sessionId).sessions.lookup other=registry.sessions.lookup other :=
 AList.lookup_erase_ne hne

theorem remove_fewer (registry:ContinuationRegistry) (sessionId:String) :
  Fewer (registry.remove sessionId) registry:=by
 intro other session hsession
 have hne:other≠sessionId:=by
  rintro rfl
  exact absurd ((AList.lookup_erase _ _).symm.trans hsession) (by simp)
 rwa [remove_other hne] at hsession

theorem evictLoop_fewer (outside:Outside) (remaining:ℕ) :
  ∀ registry:ContinuationRegistry,Fewer (registry.evictLoop outside remaining) registry:=by
 induction remaining with
 | zero=>exact Fewer.refl
 | succ remaining ih=>
  intro registry
  unfold ContinuationRegistry.evictLoop
  split
  · split
    · exact .refl registry
    · exact (ih _).trans (remove_fewer registry _)
  · exact .refl registry

theorem evictOldest_fewer (outside:Outside) (registry:ContinuationRegistry) :
  Fewer (registry.evictOldest outside) registry := evictLoop_fewer outside _ registry

/-- A session that is held has the turn that was started last, with its last record. -/
def Current (past:List Past) (registry:ContinuationRegistry) : Prop :=
 ∀ sessionId session,registry.sessions.lookup sessionId=some session →
  ∃ recorded,latest sessionId past=some (session.currentTurn,recorded) ∧
   session.continuation=recorded.map Recorded.state

theorem Current.fewer {other:ContinuationRegistry} (h:Current past other)
  (hfewer:Fewer registry other) : Current past registry :=
 fun sessionId session hsession=>h sessionId session (hfewer sessionId session hsession)

theorem current_empty (past:List Past) : Current past ⟨∅,0⟩ :=
 fun sessionId _ hsession=>absurd ((AList.lookup_empty sessionId).symm.trans hsession) (by simp)

theorem Current.insert {past':List Past} {session:SessionState} {total:ℕ} (h:Current past registry)
  (hothers:∀ other,other≠sessionId → latest other past'=latest other past)
  (hself:∃ recorded,latest sessionId past'=some (session.currentTurn,recorded) ∧
   session.continuation=recorded.map Recorded.state) :
  Current past' ⟨registry.sessions.insert sessionId session,total⟩:=by
 intro other found hfound
 by_cases hsame:other=sessionId
 · subst hsame
   rw [← Option.some.inj ((AList.lookup_insert _).symm.trans hfound)]
   exact hself
 · rw [hothers other hsame]
   exact h other found ((AList.lookup_insert_ne hsame).symm.trans hfound)

theorem latest_started (past:List Past) (sessionId:String) (turnId:ℕ) :
  latest sessionId (.started sessionId turnId::past)=some (turnId,none):=by
 rw [latest,if_pos rfl]

theorem latest_started_other (hne:other≠sessionId) :
  latest other (.started sessionId turnId::past)=latest other past:=by
 rw [latest,if_neg (Ne.symm hne)]

variable {recorded:Recorded}

theorem latest_recorded {current:ℕ} {last:Option Recorded} (h:latest sessionId past=some (current,last)) :
  latest sessionId (.recorded sessionId turnId recorded::past) =
   some (current,if current=turnId then some recorded else last):=by
 rw [latest,if_pos rfl,h,Option.map_some]

theorem latest_recorded_other (hne:other≠sessionId) :
  latest other (.recorded sessionId turnId recorded::past)=latest other past:=by
 rw [latest,if_neg (Ne.symm hne)]

variable {now:ℕ}

theorem enter_current {total:ℕ} (h:Current past registry) :
  Current (.started sessionId turnId::past)
   ⟨(registry.remove sessionId).sessions.insert sessionId ⟨turnId,none,now⟩,total⟩:=by
 refine (h.fewer (remove_fewer registry sessionId)).insert (fun other hne=>?_) ?_
 · exact latest_started_other hne
 · exact ⟨none,latest_started past sessionId turnId,rfl⟩

theorem recordTurn_current (h:Current past registry) :
  Current (.recorded sessionId turnId recorded::past)
   (World.recordTurn outside registry sessionId turnId recorded.state):=by
 unfold World.recordTurn
 split
 · rename_i hnone
   intro other session hsession
   have hne:other≠sessionId:=by
    rintro rfl
    exact absurd (hnone.symm.trans hsession) (by simp)
   rw [latest_recorded_other hne]
   exact h other session hsession
 · rename_i session hsession
   obtain ⟨last,hlast,hcontinuation⟩:=h sessionId session hsession
   split
   · rename_i hlate
     intro other found hfound
     by_cases hsame:other=sessionId
     · subst hsame
       obtain rfl:=Option.some.inj (hsession.symm.trans hfound)
       rw [latest_recorded hlast,if_neg hlate]
       exact ⟨last,rfl,hcontinuation⟩
     · rw [latest_recorded_other hsame]
       exact h other found hfound
   · rename_i hcurrent
     refine Current.fewer (h.insert (fun other hne=>?_) ?_) (evictOldest_fewer outside _)
     · exact latest_recorded_other hne
     · rw [latest_recorded hlast,if_pos (not_not.mp hcurrent)]
       exact ⟨some recorded,rfl,rfl⟩

theorem abortTurn_fewer (registry:ContinuationRegistry) (sessionId:String) (turnId:ℕ) :
  Fewer (World.abortTurn registry sessionId turnId) registry:=by
 unfold World.abortTurn
 split
 · exact remove_fewer registry sessionId
 · exact .refl registry

/-- Equal as `serde_json` compares the values of two items. -/
def SameItem (item other:ResponsesInputItem) : Prop := same (itemValue item) (itemValue other)=true

theorem sameItems_refl (items:List ResponsesInputItem) : List.Forall₂ SameItem items items :=
 List.forall₂_same.mpr fun item _=>same_refl (itemValue item)

theorem inputSuffix_told {expected:List ResponsesInputItem} :
  ∀ {input suffix:List ResponsesInputItem},
   inputSuffixAfterPrefix input expected=some suffix → List.Forall₂ SameItem input (expected++suffix):=by
 induction expected with
 | nil=>
  intro input suffix h
  rw [inputSuffixAfterPrefix] at h
  rw [Option.some.inj h]
  exact sameItems_refl suffix
 | cons item expected ih=>
  intro input suffix h
  cases input with
  | nil=>exact absurd h (by simp [inputSuffixAfterPrefix])
  | cons first input=>
   rw [inputSuffixAfterPrefix] at h
   split at h
   · rename_i hsame
     exact .cons hsame (ih h)
   · exact absurd h (by simp)

variable {body:ResponsesRequest}

theorem candidate_told {state:Option ContinuationState} {superseded:Bool} {responseId:String}
  (h:(continuationCandidateFromState turnId body state superseded now).previousResponseId=some responseId) :
  ∃ taken suffix,state=some taken ∧ now-taken.updatedAt ≤ ttlMs ∧
   promptSignature body=taken.promptSignature ∧ taken.responseId=responseId ∧
   inputSuffixAfterPrefix body.input taken.transcript=some suffix ∧
   (continuationCandidateFromState turnId body state superseded now).inputDelta = some suffix:=by
 unfold continuationCandidateFromState at h ⊢
 split at h
 · exact absurd h (by simp [withoutResponse])
 · rename_i taken htaken
   obtain ⟨hstate,hfresh⟩:=Option.filter_eq_some_iff.mp htaken
   split at h
   · exact absurd h (by simp [withoutResponse])
   · rename_i hsignature
     split at h
     · exact absurd h (by simp [withoutResponse])
     · exact absurd h (by simp [withoutResponse])
     · rename_i suffix hne hsuffix
       refine ⟨taken,suffix,hstate,of_decide_eq_true hfresh,not_not.mp hsignature,Option.some.inj h,hsuffix,?_⟩
       rw [if_neg hsignature]

/-- The request goes on from what was recorded: its input begins with what is in the
transcript, and its other fields are written alike. -/
structure Continues (returned:Returned) (recorded:Recorded)
  (delta:List ResponsesInputItem) : Prop where
 fresh : returned.now-recorded.updatedAt ≤ ttlMs
 input : List.Forall₂ SameItem returned.body.input (recorded.request.input++recorded.outputItems++delta)
 fields : returned.body.promptFields=recorded.request.promptFields

/-- A candidate with a response rests on the last record of the turn that was started last. -/
def Sound (returned:Returned) : Prop :=
 ∀ responseId,returned.candidate.previousResponseId=some responseId →
  ∃ sessionId turnId recorded delta,returned.sessionId=some sessionId ∧ returned.candidate.inputDelta=some delta ∧
   latest sessionId returned.before=some (turnId,some recorded) ∧
   recorded.responseId=responseId ∧ Continues returned recorded delta

theorem candidate_sound {superseded:Bool} {session:Option SessionState}
  (h:∀ found,session=some found → ∃ recorded,latest sessionId past=some (found.currentTurn,recorded) ∧ found.continuation=recorded.map Recorded.state)
  :
  Sound ⟨some sessionId,body,now,past,continuationCandidateFromState turnId body
   (session.bind SessionState.continuation) superseded now⟩:=by
 intro responseId hresponse
 obtain ⟨taken,suffix,htaken,hfresh,hsignature,hid,hsuffix,hdelta⟩ :=
  candidate_told hresponse
 obtain ⟨found,hfound,hcontinuation⟩:=Option.bind_eq_some_iff.mp htaken
 obtain ⟨last,hlast,hstate⟩:=h found hfound
 obtain ⟨recorded,rfl,rfl⟩:=Option.map_eq_some_iff.mp (hstate.symm.trans hcontinuation)
 exact ⟨sessionId,found.currentTurn,recorded,suffix,rfl,hdelta,hlast,hid,hfresh,
  inputSuffix_told hsuffix,signature_told hsignature⟩

theorem refused_sound {session:Option String} {count:ℕ} {reason:String}
  : Sound ⟨session,body,now,past,withoutResponse none count reason⟩ :=
 fun _ hresponse=>absurd hresponse (by simp [withoutResponse])

structure Tracked (world:World) : Prop where
 current : ∀ registry,world.registry=some registry → Current world.past registry
 sound : ∀ returned∈world.returned,Sound returned

variable {world:World}

theorem Tracked.getD (h:Tracked world) : Current world.past (world.registry.getD ⟨∅,0⟩):=by
 cases hregistry:world.registry with
 | none=>exact current_empty world.past
 | some registry=>exact h.current registry hregistry

theorem Tracked.mapped (h:Tracked world) {past:List Past} {change:ContinuationRegistry → ContinuationRegistry}
  (hchange:∀ registry,Current world.past registry → Current past (change registry)) :
  Tracked { world with registry := world.registry.map change,past := past }:=by
 refine ⟨fun registry hregistry=>?_,h.sound⟩
 obtain ⟨before,hbefore,rfl⟩:=Option.map_eq_some_iff.mp hregistry
 exact hchange before (h.current before hbefore)

theorem Tracked.reply (h:Tracked world) {returned:Returned} (hreturned:Sound returned)
  : Tracked (world.reply returned):=by
 refine ⟨h.current,fun other hother=>?_⟩
 obtain rfl | hrest:=List.mem_cons.mp hother
 · exact hreturned
 · exact h.sound other hrest

theorem enter_tracked (h:Tracked world) : Tracked (world.enter outside sessionId body turnId now):=by
 have hregistry:=h.getD
 have hentered:Tracked { world with
   registry := some (ContinuationRegistry.evictOldest outside
    { (world.registry.getD ⟨∅,0⟩).remove sessionId with
      sessions := ((world.registry.getD ⟨∅,0⟩).remove sessionId).sessions.insert sessionId ⟨turnId,none,now⟩ })
   past := .started sessionId turnId::world.past }:=by
  refine ⟨fun registry hsome=>?_,h.sound⟩
  rw [← Option.some.inj hsome]
  exact (enter_current hregistry).fewer (evictOldest_fewer outside _)
 exact hentered.reply (candidate_sound fun found hfound=>hregistry sessionId found hfound)

theorem runSection_tracked {act:Section} (h:Tracked world) : Tracked (runSection outside act world).1:=by
 cases act with
 | refuse=>exact h.reply refused_sound
 | takeTurn | stamp=>exact ⟨h.current,h.sound⟩
 | enter=>exact enter_tracked h
 | publish sessionId turnId recorded=>
  exact h.mapped fun registry hcurrent=>recordTurn_current hcurrent
 | abort sessionId turnId=>
  exact h.mapped fun registry hcurrent=>
   hcurrent.fewer (abortTurn_fewer registry sessionId turnId)
 | clear sessionId=>
  exact h.mapped fun registry hcurrent=>hcurrent.fewer (remove_fewer registry sessionId)

def OfTurn (sessionId:String) (turnId:ℕ) : Section → Prop
 | .stamp session turn _ _ _ | .publish session turn _ | .abort session turn=>
  session=sessionId ∧ turn=turnId
 | _=>False

theorem superseded_late (h:Current past registry) (hlate:Superseded past sessionId turnId)
  {session:SessionState} (hsession:registry.sessions.lookup sessionId=some session) : session.currentTurn≠turnId:=by
 obtain ⟨current,_,hlatest,hne⟩:=hlate
 obtain ⟨_,hlatest',_⟩:=h sessionId session hsession
 rw [← (Prod.mk.inj (Option.some.inj (hlatest.symm.trans hlatest'))).1]
 exact hne

theorem recordTurn_late {state:ContinuationState} (h:Current past registry) (hlate:Superseded past sessionId turnId) :
  World.recordTurn outside registry sessionId turnId state=registry:=by
 unfold World.recordTurn
 split
 · rfl
 · rename_i session hsession
   exact if_pos (superseded_late h hlate hsession)

theorem abortTurn_late (h:Current past registry) (hlate:Superseded past sessionId turnId) :
  World.abortTurn registry sessionId turnId=registry:=by
 refine if_neg fun hcurrent=>?_
 obtain ⟨session,hsession,hturn⟩:=(Option.any_eq_true _ _).mp hcurrent
 exact superseded_late h hlate hsession (eq_of_beq hturn)

theorem section_late {act:Section} (h:Tracked world) (hact:OfTurn sessionId turnId act)
  (hlate:Superseded world.past sessionId turnId) : (runSection outside act world).1.registry=world.registry:=by
 have hmap:∀ change:ContinuationRegistry → ContinuationRegistry,
   (∀ registry,Current world.past registry → change registry=registry) →
    world.registry.map change=world.registry:=by
  intro change hchange
  cases hregistry:world.registry with
  | none=>rfl
  | some registry=>
   rw [Option.map_some,hchange registry (h.current registry hregistry)]
 cases act with
 | stamp=>rfl
 | publish session turn recorded=>
  obtain ⟨rfl,rfl⟩:=hact
  exact hmap _ fun registry hcurrent=>recordTurn_late hcurrent hlate
 | abort session turn=>
  obtain ⟨rfl,rfl⟩:=hact
  exact hmap _ fun registry hcurrent=>abortTurn_late hcurrent hlate
 | _=>exact hact.elim

theorem run_tracked {events:List (Event Call Outside)} {config:Config World Section}
  (h:Run continuations start events config) : Tracked config.shared:=by
 refine shared_invariant (P := Tracked) (fun outside act shared next more htracked hrun=>?_) h
  ⟨fun _ hnone=>absurd hnone (by simp [start]),fun _ hnone=>absurd hnone List.not_mem_nil⟩
 rw [← (Prod.mk.inj (Option.some.inj hrun)).1]
 exact runSection_tracked htracked

/-- A candidate with a response goes on from the last record of the turn that was started last
for its session; the fields but for the input are the same as in the recorded request, unless
both choose a tool in a way that is written as null. A record or an abort of a turn that is
superseded leaves the registry. -/
theorem continues_same_iff (events:List (Event Call Outside)) (config:Config World Section)
    (hrun:Run continuations start events config) :
    (∀ returned∈config.shared.returned,∀ responseId,returned.candidate.previousResponseId=some responseId →
      ∃ sessionId turnId recorded delta,returned.sessionId=some sessionId ∧ returned.candidate.inputDelta=some delta ∧
        latest sessionId returned.before=some (turnId,some recorded) ∧
        recorded.responseId=responseId ∧ Continues returned recorded delta ∧
        (withoutInput returned.body=withoutInput recorded.request ↔
          ¬Blurred returned.body.toolChoice recorded.request.toolChoice)) ∧
    ∀ call outside act rest next sessionId turnId,
      config.calls.lookup call=some (act::rest) → OfTurn sessionId turnId act →
      Superseded config.shared.past sessionId turnId →
      config.step continuations (.run call outside)=some next → next.shared.registry=config.shared.registry:=by
  have htracked:=run_tracked hrun
  constructor
  · intro returned hreturned responseId hresponse
    obtain ⟨sessionId,turnId,recorded,delta,hsession,hdelta,hlatest,hid,hcontinues⟩ :=
      htracked.sound returned hreturned responseId hresponse
    exact ⟨sessionId,turnId,recorded,delta,hsession,hdelta,hlatest,hid,hcontinues,fields_told hcontinues.fields⟩
  · intro call outside act rest next sessionId turnId hcall hact hlate hstep
    obtain ⟨act',rest',shared,more,hcall',hsection,rfl⟩:=step_run hstep
    obtain ⟨rfl,rfl⟩:=List.cons.inj (Option.some.inj (hcall.symm.trans hcall'))
    obtain ⟨rfl,rfl⟩:=Prod.mk.inj (Option.some.inj hsection)
    exact section_late htracked hact hlate

/-! A turn is recorded, and the next one goes on from it. -/

def still : Outside := ⟨0,id,fun sessions=>List.Perm.refl sessions⟩

def asking (choice:ResponsesToolChoice) (texts:List String) : ResponsesRequest where
 model := "gpt"
 instructions := none
 input := texts.map fun text=>.message "user" [.inputText text]
 tools := none
 toolChoice := some choice
 store := false
 stream := true
 parallelToolCalls := true
 includes := none
 clientMetadata := none
 serviceTier := none
 promptCacheKey := none
 text := ⟨none,none⟩
 reasoning := none

def twoTurns (choice:ResponsesToolChoice) : List (Event Call Outside) :=
 [.start 0 (.candidate (some "session") (asking .auto ["one"]) true),.run 0 still,.run 0 still,
  .start 1 (.record (some "session") (some 1) (asking .auto ["one"]) (some "response") []),
  .run 1 still,.run 1 still,
  .start 2 (.candidate (some "session") (asking choice ["one","two"]) true),.run 2 still,
  .run 2 still]

def recordedFirst : Recorded := ⟨asking .auto ["one"],"response",[],0⟩

def secondReturned (choice:ResponsesToolChoice) : Returned where
 sessionId := some "session"
 body := asking choice ["one","two"]
 now := 0
 before := [.recorded "session" 1 recordedFirst,.started "session" 1]
 candidate :=
  { turnId := some 2
    previousResponseId := some "response"
    inputDelta := some [.message "user" [.inputText "two"]]
    inputDeltaCount := 1
    disabledReason := none }

def afterTwoTurns (choice:ResponsesToolChoice) : Config World Section where
 shared :=
  { registry := some ⟨[⟨"session",⟨2,none,0⟩⟩].toAList,0⟩
    nextTurnId := 3
    past := .started "session" 2::(secondReturned choice).before
    returned := [secondReturned choice,
     ⟨some "session",asking .auto ["one"],0,[],
      withoutResponse (some 1) 1 "missing_state"⟩] }
 calls := [⟨2,[]⟩,⟨1,[]⟩,⟨0,[]⟩].toAList

theorem continues_same_iff_second :
    ∃ recorded delta,latest "session" (secondReturned .auto).before=some (1,some recorded) ∧
      Continues (secondReturned .auto) recorded delta:=by
  have hrun:Run continuations start (twoTurns .auto) (afterTwoTurns .auto) :=
    Traces.perform_trace (by rfl)
  obtain ⟨sessionId,turnId,recorded,delta,hsession,_,hlatest,_,hcontinues,_⟩ :=
    (continues_same_iff (twoTurns .auto) (afterTwoTurns .auto) hrun).1 (secondReturned .auto)
      List.mem_cons_self "response" rfl
  obtain rfl:=Option.some.inj hsession
  obtain ⟨rfl,hrecorded⟩:=Prod.mk.inj (Option.some.inj hlatest)
  obtain rfl:=Option.some.inj hrecorded
  exact ⟨_,delta,rfl,hcontinues⟩

/-- The first turn left the choice of a tool to the model, and the second one requires a
tool. -/
theorem required_continues_auto :
    ¬∀ (events:List (Event Call Outside)) (config:Config World Section),Run continuations start events config →
      ∀ returned∈config.shared.returned,∀ responseId,returned.candidate.previousResponseId=some responseId →
        ∃ sessionId turnId recorded delta,returned.sessionId=some sessionId ∧ returned.candidate.inputDelta=some delta ∧
          latest sessionId returned.before=some (turnId,some recorded) ∧
          recorded.responseId=responseId ∧ Continues returned recorded delta ∧
          withoutInput returned.body=withoutInput recorded.request:=by
  intro h
  have hrun:Run continuations start (twoTurns .required) (afterTwoTurns .required) :=
    Traces.perform_trace (by rfl)
  obtain ⟨sessionId,turnId,recorded,delta,hsession,_,hlatest,_,_,hsame⟩ :=
    h (twoTurns .required) (afterTwoTurns .required) hrun (secondReturned .required) List.mem_cons_self "response" rfl
  obtain rfl:=Option.some.inj hsession
  obtain ⟨_,hrecorded⟩:=Prod.mk.inj (Option.some.inj hlatest)
  obtain rfl:=Option.some.inj hrecorded
  have hchoice:some ResponsesToolChoice.required=some ResponsesToolChoice.auto :=
    congrArg ResponsesRequest.toolChoice hsame
  exact absurd (Option.some.inj hchoice) ResponsesToolChoice.noConfusion

end CursorProxy.ContinuationSoundness
