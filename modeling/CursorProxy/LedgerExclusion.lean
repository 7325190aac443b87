import CursorProxy.LedgerTransitions

namespace CursorProxy.LedgerExclusion
open LedgerModel LedgerRecords LedgerTransitions Traces

/-- The event is a call of the given process on a working ledger. -/
structure Local (env:LedgerEnv) (processInstanceId:String) (event:LedgerEvent) : Prop where
 reliable : Reliable env event.call.ctx
 process : event.call.ctx.processInstanceId=processInstanceId

/-- The event is a claim of the key that was allowed. -/
def Admits (key:String) (event:LedgerEvent) (fingerprint:UInt64) (owner:String) : Prop :=
 event.call.op=.claim key fingerprint owner ∧ event.reply=.admission .allowed

/-- The event is a transfer of the key's stage that went through. -/
def Transfers (key:String) (event:LedgerEvent) (fingerprint:UInt64) (previousOwner nextOwner:String) : Prop :=
 event.call.op=.transferOwnerIf key fingerprint previousOwner nextOwner ∧ event.reply=.applied (.ok true)

/-- The four ways in which the stage held under a key comes to its end. -/
inductive Releases (env:LedgerEnv) (key:String) (stage:ActiveOperation) (dir:LedgerDir)
  (event:LedgerEvent) : Prop where
 | expired (hexpired:stage.expiresAtMs ≤ event.call.ctx.laterMs)
 | completed
   (hop:event.call.op=.markCompletedIfOwner key stage.fingerprint stage.ownerToken)
   (hreply:event.reply=.applied (.ok true))
   (hfresh:isCompleted (current env event.call.ctx dir key) stage.fingerprint=false)
 | cleared (hop:event.call.op=.clearIfOwner key stage.fingerprint stage.ownerToken)
   (hreply:event.reply=.applied (.ok true))
 | rotated (fingerprint:UInt64) (owner:String) (hadmits:Admits key event fingerprint owner)
   (hstate:stage.state=.ambiguous) (hknown:stage.fingerprint≠0)
   (hnext:fingerprint≠0) (hdifferent:fingerprint≠stage.fingerprint)
   (hopen:isCompleted (current env event.call.ctx dir key) fingerprint=false)

/-- The holder of a stage changes with a transfer that went through. -/
def nextHolder (key holder:String) (event:LedgerEvent) : String :=
 match event.call.op,event.reply with
 | .transferOwnerIf operationKey _ previousOwner nextOwner, .applied (.ok true)=>
  if operationKey=key ∧ previousOwner=holder then nextOwner else holder
 | _,_=>holder

/-- The stage is held under the key by an owner of this process. -/
def Held (env:LedgerEnv) (processInstanceId key holder:String) (dir:LedgerDir) (stage:ActiveOperation) : Prop :=
 activeOf env dir key=some stage ∧ stage.ownerToken=holder ∧ stage.processInstanceId=processInstanceId

variable {env:LedgerEnv} {ctx:CallContext} {dir dir':LedgerDir} {event:LedgerEvent}
 {pid key holder:String} {stage:ActiveOperation}

theorem retainActive_local (nowMs:ℕ) (h:stage.processInstanceId=pid) :
  retainActive pid nowMs (some stage)=if stage.expiresAtMs ≤ nowMs then none else some stage :=
 if_neg fun hdead=>hdead.2 h

theorem nextHolder_of_not_transferred
  (h:∀ fingerprint previousOwner nextOwner,¬Transfers key event fingerprint previousOwner nextOwner) :
  nextHolder key holder event=holder:=by
 unfold nextHolder
 split
 · rename_i operationKey fingerprint previousOwner nextOwner hop hreply
   refine if_neg ?_
   rintro ⟨rfl,-⟩
   exact h fingerprint previousOwner nextOwner ⟨hop,hreply⟩
 · rfl

theorem nextHolder_of_ne (hkey:event.call.op.key≠key) : nextHolder key holder event=holder:=by
 refine nextHolder_of_not_transferred ?_
 rintro _ _ _ ⟨hop,-⟩
 exact hkey (by rw [hop]; rfl)

theorem nextHolder_of_refused (h:refused event.reply) : nextHolder key holder event=holder:=by
 refine nextHolder_of_not_transferred ?_
 rintro _ _ _ ⟨-,hreply⟩
 rw [hreply] at h
 exact h

theorem nextHolder_of_transferred (fingerprint:UInt64) {nextOwner:String}
  (h:Transfers key event fingerprint holder nextOwner) : nextHolder key holder event=nextOwner:=by
 unfold nextHolder
 rw [h.1,h.2]
 exact if_pos ⟨rfl,rfl⟩

variable {fingerprint:UInt64} {owner:String}

theorem heldBy_iff : stage.heldBy fingerprint owner=true ↔ stage.fingerprint=fingerprint ∧ stage.ownerToken=owner:=by
 simp [ActiveOperation.heldBy]

variable {payload:RecordPayload}

theorem verdict_occupied (hactive:payload.active=some stage) (h:verdict payload fingerprint=.allowed) :
  stage.state=.ambiguous ∧ stage.fingerprint≠0 ∧ fingerprint≠0 ∧
   fingerprint≠stage.fingerprint ∧ isCompleted payload fingerprint=false:=by
 unfold verdict at h
 split_ifs at h with hrotate
 · unfold canRotateAmbiguous at hrotate
   rw [hactive] at hrotate
   simp only [Option.any_some,Bool.and_eq_true,decide_eq_true_eq,Bool.not_eq_true'] at hrotate
   obtain ⟨⟨⟨⟨hstate,hknown⟩,hnext⟩,hdifferent⟩,hopen⟩:=hrotate
   exact ⟨hstate,hknown,hnext,hdifferent.symm,hopen⟩
 · unfold classify at h
   rw [hactive] at h
   split_ifs at h

def tokens : LedgerOp → List String
 | .claim _ _ owner | .markDispatchedIfOwner _ _ owner | .prepareStageIfOwner _ owner _ _
 | .rollbackStageIfOwner _ owner _ _ | .markCompletedIfOwner _ _ owner
 | .markAmbiguousIfOwner _ _ owner _ | .clearIfOwner _ _ owner=>[owner]
 | .transferOwnerIf _ _ previousOwner nextOwner=>[previousOwner,nextOwner]

/-- What an unrefused call does to the active slot of the record it works on. -/
inductive SlotEffect (env:LedgerEnv) (ctx:CallContext) (payload:RecordPayload)
  (op:LedgerOp) : Prop where
 | unchanged (hactive:(mutationOf env ctx op payload).1.active=payload.active)
   (hclaim:∀ key fingerprint owner,op=.claim key fingerprint owner →
    verdict payload fingerprint ≠ .allowed)
   (htransfer:∀ key fingerprint previousOwner nextOwner,
    op=.transferOwnerIf key fingerprint previousOwner nextOwner →
     (mutationOf env ctx op payload).2=false)
 | admitted (key:String) (fingerprint:UInt64) (owner:String)
   (hop:op=.claim key fingerprint owner) (hverdict:verdict payload fingerprint=.allowed)
   (hactive:(mutationOf env ctx op payload).1.active =
    some (freshStage env ctx.processInstanceId ctx.nowMs fingerprint owner .prepared))
 | transferred (key nextOwner:String) (stage:ActiveOperation)
   (hop:op=.transferOwnerIf key stage.fingerprint stage.ownerToken nextOwner)
   (hbefore:payload.active=some stage) (happlied:(mutationOf env ctx op payload).2=true)
   (hactive:(mutationOf env ctx op payload).1.active =
    some { stage with ownerToken := nextOwner })
 | advanced (stage next:ActiveOperation) (htokens:tokens op=[stage.ownerToken])
   (hclaim:∀ key fingerprint owner,op ≠ .claim key fingerprint owner)
   (hbefore:payload.active=some stage)
   (hactive:(mutationOf env ctx op payload).1.active=some next)
   (howner:next.ownerToken=stage.ownerToken)
   (hprocess:next.processInstanceId=stage.processInstanceId ∨
    next.processInstanceId=ctx.processInstanceId)
 | completed (key:String) (stage:ActiveOperation)
   (hop:op=.markCompletedIfOwner key stage.fingerprint stage.ownerToken)
   (hbefore:payload.active=some stage)
   (hfresh:isCompleted payload stage.fingerprint=false)
   (happlied:(mutationOf env ctx op payload).2=true)
   (hactive:(mutationOf env ctx op payload).1.active=none)
 | cleared (key:String) (stage:ActiveOperation)
   (hop:op=.clearIfOwner key stage.fingerprint stage.ownerToken)
   (hbefore:payload.active=some stage)
   (happlied:(mutationOf env ctx op payload).2=true)
   (hactive:(mutationOf env ctx op payload).1.active=none)

theorem any_heldBy (h:(payload.active.any fun active=>active.heldBy fingerprint owner)=true) :
  ∃ stage,payload.active=some stage ∧ stage.fingerprint=fingerprint ∧
   stage.ownerToken=owner:=by
 cases hactive:payload.active with
 | none=>
  rw [hactive] at h
  exact absurd h (by simp)
 | some stage=>
  rw [hactive] at h
  exact ⟨stage,rfl,heldBy_iff.mp h⟩

theorem mutation_slotEffect (op:LedgerOp) (payload:RecordPayload) : SlotEffect env ctx payload op:=by
 cases op with
 | claim key fingerprint owner=>
  by_cases hverdict:verdict payload fingerprint=.allowed
  · exact .admitted key fingerprint owner rfl hverdict (by simp only [mutationOf,if_pos hverdict])
  · refine .unchanged (by simp only [mutationOf,if_neg hverdict]) ?_ ?_
    · rintro _ _ _ ⟨⟩
      exact hverdict
    · rintro _ _ _ _ ⟨⟩
 | transferOwnerIf key fingerprint previousOwner nextOwner=>
  cases hactive:payload.active with
  | none=>
   refine .unchanged ?_ (by rintro _ _ _ ⟨⟩) ?_
   · simp only [mutationOf,transferOwner,hactive]
   · rintro _ _ _ _ ⟨⟩
     simp only [mutationOf,transferOwner,hactive]
  | some stage=>
   by_cases hheld:stage.heldBy fingerprint previousOwner=true
   · obtain ⟨rfl,rfl⟩:=heldBy_iff.mp hheld
     refine .transferred key nextOwner stage rfl hactive ?_ ?_ <;>
      simp [mutationOf,transferOwner,hactive,hheld]
   · rw [Bool.not_eq_true] at hheld
     refine .unchanged ?_ (by rintro _ _ _ ⟨⟩) ?_
     · simp [mutationOf,transferOwner,hactive,hheld]
     · rintro _ _ _ _ ⟨⟩
       simp [mutationOf,transferOwner,hactive,hheld]
 | markDispatchedIfOwner key fingerprint owner=>
  cases hactive:payload.active with
  | none=>
   refine .unchanged ?_ (by rintro _ _ _ ⟨⟩) (by rintro _ _ _ _ ⟨⟩)
   simp only [mutationOf,markDispatched,hactive]
  | some stage=>
   by_cases hheld:stage.heldBy fingerprint owner=true
   · obtain ⟨rfl,rfl⟩:=heldBy_iff.mp hheld
     by_cases hstate:stage.state=.prepared
     · refine .advanced stage { stage with
         state := .dispatched
         recordedAtMs := ctx.nowMs
         expiresAtMs := saturatingAdd ctx.nowMs env.unresolvedRetentionMs }
        rfl (by rintro _ _ _ ⟨⟩) hactive ?_ rfl (.inl rfl)
       simp [mutationOf,markDispatched,hactive,hheld,hstate]
     · refine .unchanged ?_ (by rintro _ _ _ ⟨⟩) (by rintro _ _ _ _ ⟨⟩)
       simp [mutationOf,markDispatched,hactive,hheld,hstate]
   · refine .unchanged ?_ (by rintro _ _ _ ⟨⟩) (by rintro _ _ _ _ ⟨⟩)
     simp [mutationOf,markDispatched,hactive,hheld]
 | prepareStageIfOwner key owner previous next=>
  cases hactive:payload.active with
  | none=>
   refine .unchanged ?_ (by rintro _ _ _ ⟨⟩) (by rintro _ _ _ _ ⟨⟩)
   simp only [mutationOf,prepareStage,hactive]
  | some stage=>
   by_cases hguard:(!stage.heldBy previous owner||decide (stage.state=.prepared))=true
   · refine .unchanged ?_ (by rintro _ _ _ ⟨⟩) (by rintro _ _ _ _ ⟨⟩)
     simp only [mutationOf,prepareStage,hactive,if_pos hguard]
   · have hheld:stage.heldBy previous owner=true:=by
      simp only [Bool.or_eq_true,Bool.not_eq_true',not_or,Bool.not_eq_false] at hguard
      exact hguard.1
     obtain ⟨rfl,rfl⟩:=heldBy_iff.mp hheld
     refine .advanced stage (freshStage env ctx.processInstanceId ctx.nowMs next stage.ownerToken .prepared)
      rfl (by rintro _ _ _ ⟨⟩) hactive ?_ rfl (.inr rfl)
     simp only [mutationOf,prepareStage,hactive,if_neg hguard]
 | rollbackStageIfOwner key owner fingerprint previous=>
  by_cases hheld:(payload.active.any fun active=>active.heldBy fingerprint owner)=true
  · obtain ⟨stage,hactive,rfl,rfl⟩:=any_heldBy hheld
    refine .advanced stage (freshStage env ctx.processInstanceId ctx.laterMs previous stage.ownerToken .dispatched)
     rfl (by rintro _ _ _ ⟨⟩) hactive ?_ rfl (.inr rfl)
    simp only [mutationOf,rollbackStage,if_pos hheld]
  · refine .unchanged ?_ (by rintro _ _ _ ⟨⟩) (by rintro _ _ _ _ ⟨⟩)
    simp only [mutationOf,rollbackStage,if_neg hheld]
 | markCompletedIfOwner key fingerprint owner=>
  by_cases hdone:isCompleted payload fingerprint=true
  · refine .unchanged ?_ (by rintro _ _ _ ⟨⟩) (by rintro _ _ _ _ ⟨⟩)
    simp only [mutationOf,markCompleted,if_pos hdone]
  · by_cases hheld:(payload.active.any fun active=>active.heldBy fingerprint owner)=true
    · obtain ⟨stage,hactive,rfl,rfl⟩:=any_heldBy hheld
      refine .completed key stage rfl hactive (by simpa using hdone) ?_ ?_ <;>
       simp only [mutationOf,markCompleted,if_neg hdone,if_pos hheld]
    · refine .unchanged ?_ (by rintro _ _ _ ⟨⟩) (by rintro _ _ _ _ ⟨⟩)
      simp only [mutationOf,markCompleted,if_neg hdone,if_neg hheld]
 | markAmbiguousIfOwner key fingerprint owner message=>
  cases hactive:payload.active with
  | none=>
   refine .unchanged ?_ (by rintro _ _ _ ⟨⟩) (by rintro _ _ _ _ ⟨⟩)
   simp only [mutationOf,markAmbiguous,hactive]
  | some stage=>
   by_cases hheld:stage.heldBy fingerprint owner=true
   · obtain ⟨rfl,rfl⟩:=heldBy_iff.mp hheld
     refine .advanced stage { stage with
       state := .ambiguous
       message := some (truncateMessage message)
       recordedAtMs := ctx.nowMs
       expiresAtMs := saturatingAdd ctx.nowMs env.unresolvedRetentionMs }
      rfl (by rintro _ _ _ ⟨⟩) hactive ?_ rfl (.inl rfl)
     simp [mutationOf,markAmbiguous,hactive,hheld]
   · refine .unchanged ?_ (by rintro _ _ _ ⟨⟩) (by rintro _ _ _ _ ⟨⟩)
     simp [mutationOf,markAmbiguous,hactive,hheld]
 | clearIfOwner key fingerprint owner=>
  by_cases hheld:(payload.active.any fun active=>active.heldBy fingerprint owner)=true
  · obtain ⟨stage,hactive,rfl,rfl⟩:=any_heldBy hheld
    refine .cleared key stage rfl hactive ?_ ?_ <;>
     simp only [mutationOf,clear,if_pos hheld]
  · refine .unchanged ?_ (by rintro _ _ _ ⟨⟩) (by rintro _ _ _ _ ⟨⟩)
    simp only [mutationOf,clear,if_neg hheld]

theorem applied_releases_or_holds (hkey:event.call.op.key=key) (hprocess:event.call.ctx.processInstanceId=pid)
  (hactive:(current env event.call.ctx dir key).active=some stage)
  (howner:stage.ownerToken=holder) (hstage:stage.processInstanceId=pid)
  (hreply:event.reply = replyOf env event.call.ctx event.call.op (current env event.call.ctx dir key)) :
  Releases env key stage dir event ∨
   ((∀ fingerprint owner,¬Admits key event fingerprint owner) ∧
    ∃ next,(mutationOf env event.call.ctx event.call.op (current env event.call.ctx dir key)).1.active=some next ∧
     next.ownerToken=nextHolder key holder event ∧ next.processInstanceId=pid):=by
 obtain ⟨⟨op,ctx⟩,reply⟩:=event
 dsimp only at hkey hprocess hactive hreply ⊢
 subst hreply
 rcases mutation_slotEffect op (current env ctx dir key) with
  ⟨hsame,hclaim,htransfer⟩ | ⟨operationKey,fingerprint,owner,rfl,hverdict,-⟩ |
  ⟨operationKey,nextOwner,held,rfl,hbefore,happlied,hafter⟩ |
  ⟨held,next,htokens,hclaim,hbefore,hafter,hnext,hnextProcess⟩ |
  ⟨operationKey,held,rfl,hbefore,hfresh,happlied,-⟩ |
  ⟨operationKey,held,rfl,hbefore,happlied,-⟩
 · refine .inr ⟨?_,stage,hsame.trans hactive,?_,hstage⟩
   · rintro fingerprint owner ⟨hop,hallowed⟩
     dsimp only at hop
     subst hop
     exact hclaim _ _ _ rfl (LedgerReply.admission.inj hallowed)
   · rw [howner,nextHolder_of_not_transferred]
     rintro fingerprint previousOwner nextOwner ⟨hop,htrue⟩
     dsimp only at hop
     subst hop
     have hfalse:=htransfer _ _ _ _ rfl
     rw [Except.ok.inj (LedgerReply.applied.inj htrue)] at hfalse
     exact Bool.noConfusion hfalse
 · left
   subst hkey
   obtain ⟨hstate,hknown,hnext,hdifferent,hopen⟩:=verdict_occupied hactive hverdict
   exact .rotated fingerprint owner ⟨rfl,congrArg LedgerReply.admission hverdict⟩ hstate hknown hnext hdifferent hopen
 · right
   subst hkey
   obtain rfl : held=stage:=Option.some.inj (hbefore.symm.trans hactive)
   refine ⟨fun _ _ hadmits=>LedgerOp.noConfusion hadmits.1,_,hafter,?_,hstage⟩
   exact (nextHolder_of_transferred held.fingerprint ⟨howner ▸ rfl,
    congrArg (fun b=>LedgerReply.applied (.ok b)) happlied⟩).symm
 · right
   obtain rfl : held=stage:=Option.some.inj (hbefore.symm.trans hactive)
   refine ⟨fun _ _ hadmits=>hclaim _ _ _ hadmits.1,next,hafter,?_,?_⟩
   · rw [hnext,howner,nextHolder_of_not_transferred]
     rintro fingerprint previousOwner nextOwner ⟨hop,-⟩
     dsimp only at hop
     subst hop
     exact absurd htokens (by simp [tokens])
   · rcases hnextProcess with h | h
     · exact h.trans hstage
     · exact h.trans hprocess
 · left
   subst hkey
   obtain rfl : held=stage:=Option.some.inj (hbefore.symm.trans hactive)
   exact .completed rfl (congrArg (fun b=>LedgerReply.applied (.ok b)) happlied) hfresh
 · left
   subst hkey
   obtain rfl : held=stage:=Option.some.inj (hbefore.symm.trans hactive)
   exact .cleared rfl (congrArg (fun b=>LedgerReply.applied (.ok b)) happlied)

theorem held_step (hlocal:Local env pid event) (hstored:WellStored env dir)
  (hstep:LedgerStep env dir event dir') (hheld:Held env pid key holder dir stage) :
  Releases env key stage dir event ∨
   ((∀ fingerprint owner,¬Admits key event fingerprint owner) ∧
    ∃ next,Held env pid key (nextHolder key holder event) dir' next):=by
 obtain ⟨hactive,howner,hstage⟩:=hheld
 have hprocess:=hlocal.process
 cases hstep.keyEffect hlocal.reliable hstored key with
 | kept hslot hrefused=>
  right
  have hsame:=activeOf_congr hslot
  by_cases hkey:event.call.op.key=key
  · rw [nextHolder_of_refused (hrefused hkey)]
    refine ⟨fun f o hadmits=>?_,stage,hsame.trans hactive,howner,hstage⟩
    have h:=hrefused hkey
    rw [hadmits.2] at h
    exact h
  · rw [nextHolder_of_ne hkey]
    refine ⟨fun f o hadmits=>hkey ?_,stage,hsame.trans hactive,howner,hstage⟩
    rw [hadmits.1]
    rfl
 | swept hother hslot payload hbefore hvacant=>
  left
  have hgone:=swept_active hbefore hvacant hactive
  rw [hprocess,retainActive_local _ hstage] at hgone
  split_ifs at hgone with hexpired
  exact .expired hexpired
 | applied hkey hreply hafter hhistory=>
  have hcurrent:=current_active env event.call.ctx dir key
  rw [hactive,hprocess,retainActive_local _ hstage] at hcurrent
  split_ifs at hcurrent with hexpired
  · exact .inl (.expired (hexpired.trans event.call.ctx.now_le_later))
  · rcases applied_releases_or_holds hkey hprocess hcurrent howner hstage hreply with
     hreleases | ⟨hnobody,next,hnext,hnextOwner,hnextStage⟩
    · exact .inl hreleases
    · exact .inr ⟨hnobody,next,hafter.trans hnext,hnextOwner,hnextStage⟩

theorem admits_held (hlocal:Local env pid event) (hstored:WellStored env dir)
  (hstep:LedgerStep env dir event dir') (hadmits:Admits key event fingerprint owner) :
  ∃ stage,Held env pid key owner dir' stage ∧ stage.fingerprint=fingerprint:=by
 obtain ⟨hop,hallowed⟩:=hadmits
 have hown:event.call.op.key=key:=by
  rw [hop]
  rfl
 cases hstep.keyEffect hlocal.reliable hstored key with
 | kept hslot hrefused=>
  have h:=hrefused hown
  rw [hallowed] at h
  exact h.elim
 | swept hother=>exact absurd hown hother
 | applied hkey hreply hafter hhistory=>
  rw [hop,hallowed] at hreply
  have hverdict:verdict (current env event.call.ctx dir key) fingerprint=.allowed :=
   (LedgerReply.admission.inj hreply).symm
  rw [hop,mutationOf,if_pos hverdict] at hafter
  exact ⟨_,⟨hafter,rfl,hlocal.process⟩,rfl⟩

/-- After an admission the next admission of the key, to anybody, comes after
(or is itself) the release of the stage the admitted owner or the owner it was
transferred to held. -/
theorem admission_after_release {events:List LedgerEvent} {last:LedgerEvent} {ended:LedgerDir}
  (hlocal:∀ event∈events++[last],Local env pid event) (hstored:WellStored env dir)
  (hheld:Held env pid key holder dir stage) (hrun:Trace (LedgerStep env) dir events dir')
  (hlast:LedgerStep env dir' last ended) (hadmits:Admits key last fingerprint owner) :
  ∃ before release after mid held,events++[last]=before++release::after ∧ Trace (LedgerStep env) dir before mid ∧
   Held env pid key (before.foldl (nextHolder key) holder) mid held ∧ Releases env key held mid release:=by
 have hwell:=trace_wellStored hrun (fun event h=>(hlocal event (List.mem_append_left _ h)).reliable) hstored
 have huntil:=hrun.until (fun holder dir=>WellStored env dir ∧ ∃ stage,Held env pid key holder dir stage)
  (nextHolder key)
  (fun holder dir event=>∃ stage,Held env pid key holder dir stage ∧
   Releases env key stage dir event)
  (by
   rintro holder dir event next hevent ⟨hdir,stage,hstage⟩ hstep
   have hevent':=hlocal event (List.mem_append_left _ hevent)
   rcases held_step hevent' hdir hstep hstage with hreleases | ⟨-,hnext⟩
   · exact .inl ⟨stage,hstage,hreleases⟩
   · exact .inr ⟨hstep.wellStored hevent'.reliable hdir,hnext⟩)
  holder ⟨hstored,stage,hheld⟩
 rcases huntil with ⟨-,held,hend⟩ |
  ⟨before,release,after,mid,rfl,hbefore,-,held,hmid,hreleases⟩
 · have hlast':=hlocal last (List.mem_append_right _ (List.mem_singleton_self last))
   rcases held_step hlast' hwell hlast hend with hreleases | ⟨hnobody,-⟩
   · exact ⟨events,last,[],dir',held,rfl,hrun,hend,hreleases⟩
   · exact absurd hadmits (hnobody fingerprint owner)
 · exact ⟨before,release,after++[last],mid,held,by simp,hbefore,hmid,hreleases⟩

/-- The event gives the owner the stage of the key: a claim under its token was
allowed, or a transfer to it went through. -/
def Hands (key owner:String) (event:LedgerEvent) : Prop :=
 (∃ fingerprint,Admits key event fingerprint owner) ∨
  ∃ fingerprint previousOwner,Transfers key event fingerprint previousOwner owner

/-- The stage belongs to this process and to another owner. -/
def Foreign (processInstanceId owner:String) (stage:ActiveOperation) : Prop :=
 stage.ownerToken≠owner ∧ stage.processInstanceId=processInstanceId

/-- Whoever holds the stage of the key, it is not this owner. -/
def HeldByOthers (env:LedgerEnv) (processInstanceId key owner:String) (dir:LedgerDir) : Prop :=
 ∀ stage,activeOf env dir key=some stage → Foreign processInstanceId owner stage

/-- The event left the active stage of the key as it was, or gave it up because
it had expired. -/
def KeepsStage (env:LedgerEnv) (key:String) (dir:LedgerDir) (event:LedgerEvent) (dir':LedgerDir) : Prop :=
 activeOf env dir' key=activeOf env dir key ∨
  (activeOf env dir' key=none ∧ ∃ stage,activeOf env dir key=some stage ∧ stage.expiresAtMs ≤ event.call.ctx.laterMs)

/-- An unrefused call that does not hand the stage to the owner leaves the key to
others, and does nothing to the slot where it is issued with the owner's token. -/
theorem applied_foreign (hkey:event.call.op.key=key) (hprocess:event.call.ctx.processInstanceId=pid)
  (hpayload:∀ stage,payload.active=some stage → Foreign pid owner stage)
  (hreply:event.reply=replyOf env event.call.ctx event.call.op payload) (hhands:¬Hands key owner event) :
  (∀ stage,(mutationOf env event.call.ctx event.call.op payload).1.active=some stage → Foreign pid owner stage) ∧
   (owner∈tokens event.call.op → (mutationOf env event.call.ctx event.call.op payload).1.active=payload.active):=by
 obtain ⟨⟨op,ctx⟩,reply⟩:=event
 dsimp only at hkey hprocess hreply ⊢
 subst hreply
 rcases mutation_slotEffect op payload with
  ⟨hsame,-,-⟩ | ⟨operationKey,fingerprint,claimant,rfl,hverdict,hafter⟩ |
  ⟨operationKey,nextOwner,held,rfl,hbefore,happlied,hafter⟩ |
  ⟨held,next,htokens,hclaim,hbefore,hafter,hnext,hnextProcess⟩ |
  ⟨operationKey,held,rfl,hbefore,hfresh,happlied,hafter⟩ |
  ⟨operationKey,held,rfl,hbefore,happlied,hafter⟩
 · rw [hsame]
   exact ⟨hpayload,fun _=>rfl⟩
 · subst hkey
   have hne:claimant≠owner:=by
    rintro rfl
    exact hhands (.inl ⟨fingerprint,rfl,congrArg LedgerReply.admission hverdict⟩)
   refine ⟨fun stage hstage=>?_,fun htoken=>absurd (List.mem_singleton.mp htoken) hne.symm⟩
   obtain rfl:=Option.some.inj (hafter.symm.trans hstage)
   exact ⟨hne,hprocess⟩
 · subst hkey
   have hne:nextOwner≠owner:=by
    rintro rfl
    exact hhands (.inr ⟨_,_,rfl,congrArg (fun b=>LedgerReply.applied (.ok b)) happlied⟩)
   have hheld:=hpayload held hbefore
   refine ⟨fun stage hstage=>?_,fun htoken=>?_⟩
   · obtain rfl:=Option.some.inj (hafter.symm.trans hstage)
     exact ⟨hne,hheld.2⟩
   · simp only [tokens,List.mem_cons,List.not_mem_nil,or_false] at htoken
     rcases htoken with h | h
     · exact absurd h.symm hheld.1
     · exact absurd h.symm hne
 · have hheld:=hpayload held hbefore
   refine ⟨fun stage hstage=>?_,fun htoken=>?_⟩
   · obtain rfl:=Option.some.inj (hafter.symm.trans hstage)
     refine ⟨hnext ▸ hheld.1,?_⟩
     rcases hnextProcess with h | h
     · exact h.trans hheld.2
     · exact h.trans hprocess
   · rw [htokens] at htoken
     exact absurd (List.mem_singleton.mp htoken).symm hheld.1
 · have hheld:=hpayload held hbefore
   refine ⟨fun stage hstage=>?_,fun htoken=>?_⟩
   · exact absurd (hafter.symm.trans hstage) (by simp)
   · exact absurd (List.mem_singleton.mp htoken).symm hheld.1
 · have hheld:=hpayload held hbefore
   refine ⟨fun stage hstage=>?_,fun htoken=>?_⟩
   · exact absurd (hafter.symm.trans hstage) (by simp)
   · exact absurd (List.mem_singleton.mp htoken).symm hheld.1

theorem foreign_step (hlocal:Local env pid event) (hstored:WellStored env dir)
  (hstep:LedgerStep env dir event dir') (hothers:HeldByOthers env pid key owner dir) (hhands:¬Hands key owner event) :
  HeldByOthers env pid key owner dir' ∧ (owner∈tokens event.call.op → KeepsStage env key dir event dir'):=by
 have hprocess:=hlocal.process
 cases hstep.keyEffect hlocal.reliable hstored key with
 | kept hslot hrefused=>
  have hsame:=activeOf_congr hslot
  exact ⟨fun stage hstage=>hothers stage (hsame ▸ hstage),fun _=>.inl hsame⟩
 | swept hother hslot payload hbefore hvacant=>
  have hnone:activeOf env dir' key=none:=by
   unfold activeOf
   rw [hslot]
   rfl
  refine ⟨fun stage hstage=>absurd (hnone.symm.trans hstage) (by simp),fun _=>?_⟩
  cases hactive:activeOf env dir key with
  | none=>exact .inl (hnone.trans hactive.symm)
  | some stage=>
   have hgone:=swept_active hbefore hvacant hactive
   rw [hprocess,retainActive_local _ (hothers stage hactive).2] at hgone
   split_ifs at hgone with hexpired
   exact .inr ⟨hnone,stage,hactive,hexpired⟩
 | applied hkey hreply hafter hhistory=>
  have hcurrent:=current_active env event.call.ctx dir key
  have hkept:(current env event.call.ctx dir key).active=activeOf env dir key ∨
    ((current env event.call.ctx dir key).active=none ∧ ∃ stage,
     activeOf env dir key=some stage ∧ stage.expiresAtMs ≤ event.call.ctx.laterMs):=by
   cases hactive:activeOf env dir key with
   | none=>
    rw [hactive] at hcurrent
    exact .inl hcurrent
   | some stage=>
    rw [hactive,hprocess,retainActive_local _ (hothers stage hactive).2] at hcurrent
    split_ifs at hcurrent with hexpired
    · exact .inr ⟨hcurrent,stage,rfl,hexpired.trans event.call.ctx.now_le_later⟩
    · exact .inl hcurrent
  have hforeign:∀ stage,(current env event.call.ctx dir key).active=some stage → Foreign pid owner stage:=by
   intro stage hstage
   rcases hkept with hsame | ⟨hnone,-⟩
   · exact hothers stage (hsame ▸ hstage)
   · exact absurd (hnone.symm.trans hstage) (by simp)
  obtain ⟨hafterForeign,huntouched⟩ :=
   applied_foreign hkey hprocess hforeign hreply hhands
  refine ⟨fun stage hstage=>hafterForeign stage (hafter ▸ hstage),fun htoken=>?_⟩
  unfold KeepsStage
  rw [hafter,huntouched htoken]
  exact hkept

theorem foreign_run {events:List LedgerEvent} (hrun:Trace (LedgerStep env) dir events dir')
  (hstored:WellStored env dir) (hlocal:∀ event∈events,Local env pid event)
  (hhands:∀ event∈events,¬Hands key owner event)
  (hothers:HeldByOthers env pid key owner dir) : HeldByOthers env pid key owner dir':=by
 refine (hrun.invariant (fun dir=>WellStored env dir ∧ HeldByOthers env pid key owner dir)
  ?_ ⟨hstored,hothers⟩).2
 rintro dir event next hevent ⟨hdir,hheld⟩ hstep
 have hlocal':=hlocal event hevent
 exact ⟨hstep.wellStored hlocal'.reliable hdir,(foreign_step hlocal' hdir hstep hheld (hhands event hevent)).1⟩

/-- One stage at a time. After an admission the key admits nobody before the
stage held by the admitted owner, or by the owner it was transferred to, is
released; and once that stage is rotated away to another owner, no call with the
superseded token touches the active stage but to drop an expired one, as long as
that token is not itself admitted again or handed the stage. -/
theorem stage_exclusive {start claimed:LedgerDir} {first:LedgerEvent} {fingerprint:UInt64}
    {owner:String} {events:List LedgerEvent} (hstored:WellStored env start)
    (hfirst:LedgerStep env start first claimed) (hadmits:Admits key first fingerprint owner)
    (hrun:Trace (LedgerStep env) claimed events dir) (hlocal:∀ event∈first::events,Local env pid event) :
    (∀ last ended nextFingerprint nextOwner,Local env pid last →
      LedgerStep env dir last ended → Admits key last nextFingerprint nextOwner →
        ∃ before release after mid held,events++[last]=before++release::after ∧
          Trace (LedgerStep env) claimed before mid ∧ Held env pid key (before.foldl (nextHolder key) owner) mid held ∧
          Releases env key held mid release) ∧
    (∀ rotation rotated superseded nextFingerprint nextOwner later mid call ended,
      Held env pid key (events.foldl (nextHolder key) owner) dir superseded →
      LedgerStep env dir rotation rotated → Admits key rotation nextFingerprint nextOwner →
      nextOwner≠superseded.ownerToken → Trace (LedgerStep env) rotated later mid → LedgerStep env mid call ended →
      (∀ event∈rotation::later++[call],Local env pid event) →
      (∀ event∈later++[call],¬Hands key superseded.ownerToken event) →
      superseded.ownerToken∈tokens call.call.op → KeepsStage env key mid call ended):=by
  have hfirstLocal:=hlocal first List.mem_cons_self
  have hrunLocal:∀ event∈events,Local env pid event:=fun event hevent=>
    hlocal event (List.mem_cons_of_mem _ hevent)
  have hclaimed:=hfirst.wellStored hfirstLocal.reliable hstored
  have hdir:=trace_wellStored hrun (fun event hevent=>(hrunLocal event hevent).reliable) hclaimed
  obtain ⟨stage,hheld,-⟩:=admits_held hfirstLocal hstored hfirst hadmits
  constructor
  · intro last ended nextFingerprint nextOwner hlastLocal hlast hnext
    refine admission_after_release ?_ hclaimed hheld hrun hlast hnext
    intro event hevent
    rcases List.mem_append.mp hevent with h | h
    · exact hrunLocal event h
    · rw [List.mem_singleton.mp h]
      exact hlastLocal
  · intro rotation rotated superseded nextFingerprint nextOwner later mid call ended _ hrotation
      hnext hne hlater hcall hall hhands htoken
    have hrotationLocal:=hall rotation (by simp)
    have hrotated:=hrotation.wellStored hrotationLocal.reliable hdir
    have hothers:HeldByOthers env pid key superseded.ownerToken rotated:=by
      obtain ⟨next,⟨hactive,hnextOwner,hnextProcess⟩,-⟩ :=
        admits_held hrotationLocal hdir hrotation hnext
      intro held hheld
      obtain rfl:=Option.some.inj (hactive.symm.trans hheld)
      exact ⟨hnextOwner ▸ hne,hnextProcess⟩
    have hlaterLocal:∀ event∈later,Local env pid event:=fun event h=>hall event (by simp [h])
    have hmid:=foreign_run hlater hrotated hlaterLocal (fun event h=>hhands event (by simp [h]))
      hothers
    have hmidStored:=trace_wellStored hlater (fun event h=>(hlaterLocal event h).reliable) hrotated
    exact (foreign_step (hall call (by simp)) hmidStored hcall hmid (hhands call (by simp))).2 htoken

/-- A stage of `a` turns ambiguous and is rotated to `b`; then `b`'s stage turns
ambiguous too and `a` claims again. -/
def rotationOps : ℕ → LedgerOp
 | 0=>.claim "turn" 1 "a"
 | 1=>.markAmbiguousIfOwner "turn" 1 "a" "cut"
 | 2=>.claim "turn" 2 "b"
 | 3=>.markAmbiguousIfOwner "turn" 2 "b" "cut"
 | _=>.claim "turn" 3 "a"

def rotationCalls (n:ℕ) : LedgerCall := ⟨rotationOps n,calmContext "proxy" 0 (Nat.zero_le _)⟩

theorem rotationCalls_local (n:ℕ) :
  Local defaultEnv "proxy" (eventAt defaultEnv rotationCalls n) := ⟨calm_reliable _,rfl⟩

/-- The owner token of the stage after the first `n` calls. -/
def rotationOwner (n:ℕ) : Option String :=
 (activeOf defaultEnv (dirAfter defaultEnv rotationCalls n) "turn").map (·.ownerToken)

/-- What `a` holds when `b` takes over. -/
def supersededStage : ActiveOperation :=
 { freshStage defaultEnv "proxy" 0 1 "a" .ambiguous with message := some "cut" }

theorem supersededStage_held : Held defaultEnv "proxy" "turn" "a"
  (dirAfter defaultEnv rotationCalls 2) supersededStage :=
 ⟨by decide,rfl,rfl⟩

theorem rotation_admits : Admits "turn" (eventAt defaultEnv rotationCalls 2) 2 "b" :=
 ⟨rfl,by decide⟩

/-- `a` comes back for its old stage while `b` holds the key. -/
def staleCall : LedgerCall := ⟨.clearIfOwner "turn" 1 "a",calmContext "proxy" 0 (Nat.zero_le _)⟩

theorem stage_exclusive_rotation :
    (∃ before release after mid held,
      [eventAt defaultEnv rotationCalls 1]++[eventAt defaultEnv rotationCalls 2] = before++release::after ∧
        Trace (LedgerStep defaultEnv) (dirAfter defaultEnv rotationCalls 1) before mid ∧
        Held defaultEnv "proxy" "turn" (before.foldl (nextHolder "turn") "a") mid held ∧
        Releases defaultEnv "turn" held mid release) ∧
      KeepsStage defaultEnv "turn" (dirAfter defaultEnv rotationCalls 3)
        (eventOf defaultEnv (dirAfter defaultEnv rotationCalls 3) staleCall)
        (step defaultEnv (dirAfter defaultEnv rotationCalls 3) staleCall).1:=by
  have hfirst:Admits "turn" (eventAt defaultEnv rotationCalls 0) 1 "a" :=
    ⟨rfl,by decide +kernel⟩
  have hholder:nextHolder "turn" "a" (eventAt defaultEnv rotationCalls 1) = "a" :=
    nextHolder_of_not_transferred fun _ _ _ h=>LedgerOp.noConfusion h.1
  have hlocal:∀ event∈(List.range' 0 2).map (eventAt defaultEnv rotationCalls),Local defaultEnv "proxy" event:=by
    intro event hevent
    obtain ⟨n,-,rfl⟩:=List.mem_map.mp hevent
    exact rotationCalls_local n
  have hexclusive:=stage_exclusive (wellStored_empty defaultEnv)
    (step_at defaultEnv rotationCalls 0) hfirst (trace_at defaultEnv rotationCalls 1 1) hlocal
  refine ⟨hexclusive.1 _ _ 2 "b" (rotationCalls_local 2) (step_at defaultEnv rotationCalls 2) rotation_admits,?_⟩
  refine hexclusive.2 (eventAt defaultEnv rotationCalls 2) (dirAfter defaultEnv rotationCalls 3)
    supersededStage 2 "b" [] _ _ _ (hholder.symm ▸ supersededStage_held)
    (step_at defaultEnv rotationCalls 2) rotation_admits (by decide) (.nil _)
    (step_eventOf _ _ staleCall) ?_ ?_ (by decide)
  · intro event hevent
    rcases List.mem_cons.mp hevent with rfl | htail
    · exact rotationCalls_local 2
    · rw [List.mem_singleton.mp htail]
      exact ⟨calm_reliable _,rfl⟩
  · intro event hevent
    rw [List.mem_singleton.mp hevent]
    rintro (⟨_,hop,-⟩ | ⟨_,_,hop,-⟩) <;> exact LedgerOp.noConfusion hop

/-- The superseded owner `a` claims again once `b`'s stage is ambiguous, and its
call replaces the active stage. -/
theorem superseded_owner_admitted_again :
    Held defaultEnv "proxy" "turn" "a" (dirAfter defaultEnv rotationCalls 2) supersededStage ∧
      Admits "turn" (eventAt defaultEnv rotationCalls 2) 2 "b" ∧
      LedgerStep defaultEnv (dirAfter defaultEnv rotationCalls 2)
        (eventAt defaultEnv rotationCalls 2) (dirAfter defaultEnv rotationCalls 3) ∧
      Trace (LedgerStep defaultEnv) (dirAfter defaultEnv rotationCalls 3)
        [eventAt defaultEnv rotationCalls 3] (dirAfter defaultEnv rotationCalls 4) ∧
      LedgerStep defaultEnv (dirAfter defaultEnv rotationCalls 4)
        (eventAt defaultEnv rotationCalls 4) (dirAfter defaultEnv rotationCalls 5) ∧ "a" ∈ tokens (rotationOps 4) ∧
      ¬KeepsStage defaultEnv "turn" (dirAfter defaultEnv rotationCalls 4)
        (eventAt defaultEnv rotationCalls 4) (dirAfter defaultEnv rotationCalls 5):=by
  refine ⟨supersededStage_held,rotation_admits,step_at _ _ 2,.single (step_at _ _ 3),step_at _ _ 4,
    by decide,?_⟩
  have hbefore:rotationOwner 4=some "b" := by decide +kernel
  have hafter:rotationOwner 5=some "a" := by decide +kernel
  unfold rotationOwner at hbefore hafter
  rintro (hsame | ⟨hnone,-⟩)
  · rw [hsame,hbefore] at hafter
    exact absurd hafter (by decide)
  · rw [hnone] at hafter
    exact absurd hafter (by decide)

end CursorProxy.LedgerExclusion
