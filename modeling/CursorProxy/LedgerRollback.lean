import CursorProxy.LedgerReplay

namespace CursorProxy.LedgerRollback
open LedgerModel LedgerRecords LedgerTransitions LedgerHistory LedgerReplay Traces

variable {env:LedgerEnv} {ctx:CallContext} {dir dir':LedgerDir} {event:LedgerEvent}
 {key owner:String} {previous next fingerprint:UInt64}

def Quiet (stage:ActiveOperation) : Prop := stage.state ≠ .ambiguous → stage.message=none

theorem mutation_quiet (op:LedgerOp) {payload:RecordPayload} (h:∀ stage,payload.active=some stage → Quiet stage) :
  ∀ stage,(mutationOf env ctx op payload).1.active=some stage → Quiet stage:=by
 intro stage hstage
 cases op with
 | claim key fingerprint owner=>
  simp only [mutationOf] at hstage
  split_ifs at hstage
  · obtain rfl:=Option.some.inj hstage
    exact fun _=>rfl
  · exact h stage hstage
 | markDispatchedIfOwner key fingerprint owner=>
  simp only [mutationOf,markDispatched] at hstage
  split at hstage
  · exact h stage hstage
  · rename_i held hheld
    split_ifs at hstage with _ hprepared
    · exact h stage hstage
    · obtain rfl:=Option.some.inj hstage
      exact fun _=>h held hheld (by rw [hprepared]; exact ActiveState.noConfusion)
    · exact h stage hstage
 | transferOwnerIf key fingerprint previousOwner nextOwner=>
  simp only [mutationOf,transferOwner] at hstage
  split at hstage
  · exact h stage hstage
  · rename_i held hheld
    split_ifs at hstage
    · exact h stage hstage
    · obtain rfl:=Option.some.inj hstage
      exact h held hheld
 | prepareStageIfOwner key owner previous next=>
  simp only [mutationOf,prepareStage] at hstage
  split at hstage
  · exact h stage hstage
  · split_ifs at hstage
    · exact h stage hstage
    · obtain rfl:=Option.some.inj hstage
      exact fun _=>rfl
 | rollbackStageIfOwner key owner fingerprint previous=>
  simp only [mutationOf,rollbackStage] at hstage
  split_ifs at hstage
  · obtain rfl:=Option.some.inj hstage
    exact fun _=>rfl
  · exact h stage hstage
 | markCompletedIfOwner key fingerprint owner=>
  simp only [mutationOf,markCompleted] at hstage
  split_ifs at hstage <;> exact h stage hstage
 | markAmbiguousIfOwner key fingerprint owner message=>
  simp only [mutationOf,markAmbiguous] at hstage
  split at hstage
  · exact h stage hstage
  · split_ifs at hstage
    · exact h stage hstage
    · obtain rfl:=Option.some.inj hstage
      exact fun hstate=>absurd rfl hstate
 | clearIfOwner key fingerprint owner=>
  simp only [mutationOf,clear] at hstage
  split_ifs at hstage
  exact h stage hstage

theorem retainActive_eq_some {processInstanceId:String} {nowMs:ℕ}
  {active:Option ActiveOperation} {stage:ActiveOperation}
  (h:retainActive processInstanceId nowMs active=some stage) : active=some stage:=by
 unfold retainActive at h
 split at h
 · exact absurd h (by simp)
 · split_ifs at h
   exact h

def QuietStages (env:LedgerEnv) (dir:LedgerDir) : Prop :=
 ∀ key stage,activeOf env dir key=some stage → Quiet stage

theorem quietStages_step (hreliable:Reliable env event.call.ctx) (hstored:WellStored env dir)
  (hstep:LedgerStep env dir event dir') (h:QuietStages env dir) : QuietStages env dir':=by
 intro key stage hstage
 cases hstep.keyEffect hreliable hstored key with
 | kept hslot _=>
  rw [activeOf_congr hslot] at hstage
  exact h key stage hstage
 | swept _ hslot _ _ _=>
  unfold activeOf at hstage
  rw [hslot] at hstage
  exact absurd hstage (by simp)
 | applied _ _ hactive _=>
  rw [hactive] at hstage
  refine mutation_quiet _ (fun held hheld=>h key held ?_) stage hstage
  rw [current_active] at hheld
  exact retainActive_eq_some hheld

theorem quietStages_run {events:List LedgerEvent} (hrun:Trace (LedgerStep env) .empty events dir)
  (hreliable:∀ event∈events,Reliable env event.call.ctx) : QuietStages env dir:=by
 have hinvariant:=hrun.invariant (fun dir=>WellStored env dir ∧ QuietStages env dir)
  (fun _ event _ hevent h hstep=>⟨hstep.wellStored (hreliable event hevent) h.1,
   quietStages_step (hreliable event hevent) h.1 hstep h.2⟩)
  ⟨wellStored_empty env,fun _ _ h=>absurd h (by simp [activeOf,slot,LedgerDir.empty])⟩
 exact hinvariant.2

/-- A reached directory, a prepare of the stage after a dispatched one and its
rollback, both gone through. -/
structure RollbackRun (env:LedgerEnv) (key owner:String) (previous next:UInt64) where
 past : List LedgerEvent
 start : LedgerDir
 prepared : LedgerDir
 rolledBack : LedgerDir
 prepare : LedgerEvent
 rollback : LedgerEvent
 stage : ActiveOperation
 reached : Trace (LedgerStep env) .empty past start
 prepareStep : LedgerStep env start prepare prepared
 rollbackStep : LedgerStep env prepared rollback rolledBack
 prepareOp : prepare.call.op=.prepareStageIfOwner key owner previous next
 rollbackOp : rollback.call.op=.rollbackStageIfOwner key owner next previous
 prepareReply : prepare.reply=.applied (.ok true)
 rollbackReply : rollback.reply=.applied (.ok true)
 dispatched : (current env prepare.call.ctx start key).active=some stage ∧ stage.state=.dispatched
 reliable : ∀ event∈past++[prepare,rollback],Reliable env event.call.ctx
 ordered : ClockOrdered (past++[prepare,rollback])

namespace RollbackRun

variable (run:RollbackRun env key owner previous next)

def before : RecordPayload := current env run.prepare.call.ctx run.start key

def after (ctx:CallContext) : RecordPayload := current env ctx run.rolledBack key

/-- The later call comes within the retention of all that was there: the
history the prepare found, its own completion and the stage rolled back to. -/
structure Within (ctx:CallContext) : Prop where
 later : run.rollback.call.ctx.laterMs ≤ ctx.nowMs
 history : ∀ entry∈run.before.completed,ctx.nowMs ≤ entry.completedAtMs+env.completedRetentionMs
 completion : ctx.nowMs ≤ run.prepare.call.ctx.nowMs+env.completedRetentionMs
 stage : ctx.nowMs<saturatingAdd run.rollback.call.ctx.laterMs env.unresolvedRetentionMs

theorem prepare_reliable : Reliable env run.prepare.call.ctx := run.reliable _ (by simp)

theorem rollback_reliable : Reliable env run.rollback.call.ctx := run.reliable _ (by simp)

theorem start_histories : KeepsHistories env run.prepare.call.ctx.nowMs run.start:=by
 obtain ⟨hordered,-,hbefore⟩:=List.pairwise_append.mp run.ordered
 have hkeeps:KeepsHistories env (clockAfter 0 run.past) run.start :=
  clocked_run (KeepsHistories env) run.reached hordered (fun _ _=>Nat.zero_le _)
   (fun _ _ event _ hevent hnow hinv hstep=>
    keepsHistories_step (run.reliable event (by simp [hevent])) hstep hnow hinv)
   (keepsHistories_empty env 0)
 refine ⟨hkeeps.1,fun key=>(hkeeps.2 key).mono ?_⟩
 exact clockAfter_le (Nat.zero_le _) fun event hevent=>hbefore event hevent _ (by simp)

theorem prepare_before_rollback : run.prepare.call.ctx.laterMs ≤ run.rollback.call.ctx.nowMs:=by
 obtain ⟨-,hpair,-⟩:=List.pairwise_append.mp run.ordered
 exact (List.pairwise_cons.mp hpair).1 _ (List.mem_singleton_self _)

theorem prepared_histories : KeepsHistories env run.prepare.call.ctx.laterMs run.prepared :=
 keepsHistories_step run.prepare_reliable run.prepareStep (le_refl _) run.start_histories

theorem before_histories : Histories run.prepare.call.ctx.nowMs run.before.completed:=by
 unfold before
 rw [current_completed]
 exact (run.start_histories.2 key).retainCompleted env _

theorem before_length : run.before.completed.length ≤ env.maxCompletedPerKey:=by
 unfold before
 rw [current_completed]
 exact retainCompleted_length _ _

theorem stage_quiet : run.stage.message=none:=by
 have hreliable:∀ event∈run.past,Reliable env event.call.ctx :=
  fun event hevent=>run.reliable event (by simp [hevent])
 have hactive:=run.dispatched.1
 rw [current_active] at hactive
 refine quietStages_run run.reached hreliable key run.stage (retainActive_eq_some hactive) ?_
 rw [run.dispatched.2]
 exact ActiveState.noConfusion

theorem prepare_completes : completedBy key run.prepare=some previous:=by
 simp [completedBy,run.prepareOp,run.prepareReply]

theorem rollback_completes_nothing : completedBy key run.rollback=none:=by
 simp [completedBy,run.rollbackOp]

theorem prepared_history : historyOf env run.prepared key =
  addCompleted env run.before.completed previous run.prepare.call.ctx.nowMs :=
 stamped_history run.prepare_reliable run.start_histories.1 run.prepareStep run.prepare_completes
  (.inl ⟨owner,next,run.prepareOp⟩)

theorem rolledBack_record :
  activeOf env run.rolledBack key=some (freshStage env
    run.rollback.call.ctx.processInstanceId run.rollback.call.ctx.laterMs previous owner .dispatched) ∧
   historyOf env run.rolledBack key =
    retainCompleted env run.rollback.call.ctx.nowMs (historyOf env run.prepared key):=by
 have hkey:run.rollback.call.op.key=key:=by
  rw [run.rollbackOp]
  rfl
 cases run.rollbackStep.keyEffect run.rollback_reliable run.prepared_histories.1 key with
 | kept _ hrefused=>
  have h:=hrefused hkey
  rw [run.rollbackReply] at h
  exact h.elim
 | swept hother=>exact absurd hkey hother
 | applied _ hreply hactive hhistory=>
  rw [run.rollbackReply,run.rollbackOp] at hreply
  rw [run.rollbackOp] at hactive hhistory
  have happlied:(rollbackStage env run.rollback.call.ctx owner next previous
    (current env run.rollback.call.ctx run.prepared key)).2=true :=
   (Except.ok.inj (LedgerReply.applied.inj hreply)).symm
  unfold rollbackStage at happlied
  simp only [mutationOf,rollbackStage] at hactive hhistory
  split_ifs at happlied hactive hhistory with hheld
  · refine ⟨hactive,?_⟩
    rw [hhistory]
    exact current_completed ..

variable {run}

theorem after_active (h:run.Within ctx) : (run.after ctx).active =
  some (freshStage env run.rollback.call.ctx.processInstanceId run.rollback.call.ctx.laterMs
   previous owner .dispatched):=by
 have hfresh:¬saturatingAdd run.rollback.call.ctx.laterMs env.unresolvedRetentionMs ≤ ctx.nowMs :=
  Nat.not_le.mpr h.stage
 unfold after
 rw [current_active,run.rolledBack_record.1]
 simp [retainActive,freshStage,hfresh]

theorem after_completed (ctx:CallContext) : (run.after ctx).completed =
  retainCompleted env ctx.nowMs (retainCompleted env run.rollback.call.ctx.nowMs
   (addCompleted env run.before.completed previous run.prepare.call.ctx.nowMs)):=by
 unfold after
 rw [current_completed,run.rolledBack_record.2,run.prepared_history]

theorem previous_remembered : Remembers previous run.prepare.call.ctx.nowMs ∅ (historyOf env run.prepared key) :=
 remembers_completed run.prepare_reliable run.prepareStep (le_refl _) run.start_histories
  run.prepare_completes (.inl ⟨owner,next,run.prepareOp⟩) (maxCompletedPerKey_pos env)

theorem rolledBack_replayable
  (hwithin:run.rollback.call.ctx.laterMs ≤ run.prepare.call.ctx.nowMs+env.completedRetentionMs) :
  Replayable env key previous run.prepare.call.ctx.nowMs ∅ run.rollback.call.ctx.laterMs run.rolledBack:=by
 refine replayable_step run.rollback_reliable run.rollbackStep run.prepare_before_rollback hwithin
  ?_ (maxCompletedPerKey_pos env) ?_ ⟨run.prepared_histories,run.previous_remembered⟩
 · exact run.prepare.call.ctx.now_le_later.trans run.prepare_before_rollback
 · rw [run.rollback_completes_nothing]
   exact fun _ h=>absurd h (by simp)

theorem previous_completed_after (h:run.Within ctx) : isCompleted (run.after ctx) previous=true:=by
 have hreplayable:=run.rolledBack_replayable (h.later.trans h.completion)
 have hremembers:=hreplayable.2.retainCompleted (hreplayable.1.2 key) h.completion (maxCompletedPerKey_pos env)
 rw [← current_completed] at hremembers
 obtain ⟨entry,hentry,hfingerprint,-⟩:=hremembers.exists_mem
 exact isCompleted_iff.mpr ⟨entry,hentry,hfingerprint⟩

variable (run) in
/-- The history in which the completion is only stamped anew. -/
def restamped : List CompletedOperation :=
 (run.before.completed.filter fun entry=>entry.fingerprint≠previous) ++
  [⟨previous,run.prepare.call.ctx.nowMs⟩]

theorem restamped_length (hdone:isCompleted run.before previous=true) :
  run.restamped.length ≤ env.maxCompletedPerKey:=by
 obtain ⟨entry,hentry,hfingerprint⟩:=isCompleted_iff.mp hdone
 have hshorter:(run.before.completed.filter fun entry=>entry.fingerprint≠previous).length <
   run.before.completed.length:=by
  refine lt_of_le_of_ne (List.length_filter_le _ _) fun heq=>?_
  have hall:=List.length_filter_eq_length_iff.mp heq entry hentry
  exact of_decide_eq_true hall hfingerprint
 have hlength:=run.before_length
 unfold restamped
 rw [List.length_append,List.length_singleton]
 omega

theorem restamped_within (h:run.Within ctx) {nowMs:ℕ} (hnow:nowMs ≤ ctx.nowMs) :
  ∀ entry∈run.restamped,nowMs ≤ entry.completedAtMs+env.completedRetentionMs:=by
 intro entry hentry
 rcases List.mem_append.mp hentry with hold | hnew
 · exact hnow.trans (h.history entry (List.mem_of_mem_filter hold))
 · rw [List.mem_singleton.mp hnew]
   exact hnow.trans h.completion

theorem after_completed_again (h:run.Within ctx) (hdone:isCompleted run.before previous=true) :
  (run.after ctx).completed=run.restamped:=by
 have hsorted:=addCompleted_eq env previous run.before_histories (le_refl _)
 have hdistinct:(run.restamped.map CompletedOperation.fingerprint).Nodup:=hsorted.1.distinct
 have hadded:addCompleted env run.before.completed previous run.prepare.call.ctx.nowMs =
   drainExcess env.maxCompletedPerKey run.restamped := hsorted.2
 have hfits:=restamped_length hdone
 have hrollback:=run.rollback.call.ctx.now_le_later.trans h.later
 rw [after_completed,hadded,drainExcess,Nat.sub_eq_zero_of_le hfits,List.drop_zero,
  retainCompleted_eq_self hdistinct hfits (restamped_within h hrollback),
  retainCompleted_eq_self hdistinct hfits (restamped_within h (le_refl _))]

theorem isCompleted_after_again (h:run.Within ctx) (hdone:isCompleted run.before previous=true) (fingerprint:UInt64) :
  isCompleted (run.after ctx) fingerprint=isCompleted run.before fingerprint:=by
 rw [Bool.eq_iff_iff,isCompleted_iff,isCompleted_iff,after_completed_again h hdone]
 constructor
 · rintro ⟨entry,hentry,rfl⟩
   rcases List.mem_append.mp hentry with hold | hnew
   · exact ⟨entry,List.mem_of_mem_filter hold,rfl⟩
   · rw [List.mem_singleton.mp hnew]
     exact isCompleted_iff.mp hdone
 · rintro ⟨entry,hentry,rfl⟩
   by_cases hsame:entry.fingerprint=previous
   · exact ⟨_,List.mem_append_right _ (List.mem_singleton_self _),hsame.symm⟩
   · refine ⟨entry,List.mem_append_left _ (List.mem_filter.mpr ⟨hentry,?_⟩),rfl⟩
     exact decide_eq_true hsame

theorem verdicts_restored (h:run.Within ctx) (hdone:isCompleted run.before previous=true) (fingerprint:UInt64) :
  classify (run.after ctx) fingerprint=classify run.before fingerprint:=by
 unfold classify
 rw [isCompleted_after_again h hdone,after_active h]
 have hactive:run.before.active=some run.stage:=run.dispatched.1
 rw [hactive]
 simp only [activeMessage,freshStage,run.stage_quiet,run.dispatched.2]

theorem previous_refused (h:run.Within ctx) (hopen:isCompleted run.before previous=false) :
  classify (run.after ctx) previous≠classify run.before previous:=by
 have hactive:run.before.active=some run.stage:=run.dispatched.1
 unfold classify
 rw [previous_completed_after h,hopen,hactive]
 simp

end RollbackRun

/-- After a prepared stage is rolled back, every fingerprint gets the verdict it
got before the pair if and only if the rolled-back stage was in the history
before. Cleared after that, the stage cannot be claimed again within the
retention: it was left in the history. -/
theorem rollback_restores_iff (run:RollbackRun env key owner previous next) :
    (∀ ctx,run.Within ctx →
      ((∀ fingerprint,classify (run.after ctx) fingerprint=classify run.before fingerprint) ↔
        isCompleted run.before previous=true)) ∧
    (∀ release released claim ended claimant,
      LedgerStep env run.rolledBack release released → LedgerStep env released claim ended →
      ClockOrdered [run.rollback,release,claim] → Reliable env release.call.ctx → Reliable env claim.call.ctx →
      release.call.op=.clearIfOwner key previous owner → release.reply=.applied (.ok true) →
      claim.call.op=.claim key previous claimant →
      claim.call.ctx.nowMs ≤ run.prepare.call.ctx.nowMs+env.completedRetentionMs →
        claim.reply ≠ .admission .allowed):=by
  constructor
  · intro ctx hwithin
    refine ⟨fun hall=>?_,fun hdone=>RollbackRun.verdicts_restored hwithin hdone⟩
    by_contra hopen
    exact RollbackRun.previous_refused hwithin (Bool.not_eq_true _ ▸ hopen) (hall previous)
  · intro release released claim ended claimant hrelease hclaim hordered hreleaseReliable
      hclaimReliable hreleaseOp _ hclaimOp hwithin hallowed
    obtain ⟨hfirst,hrest⟩:=List.pairwise_cons.mp hordered
    have hrollbackRelease:=hfirst release (by simp)
    have hreleaseClaim:=(List.pairwise_cons.mp hrest).1 claim (by simp)
    have hreleaseWithin:=hreleaseClaim.trans hwithin
    have hrollbackWithin :=
      (hrollbackRelease.trans release.call.ctx.now_le_later).trans hreleaseWithin
    have hreplayable:=run.rolledBack_replayable hrollbackWithin
    have hsince:run.prepare.call.ctx.nowMs ≤ release.call.ctx.nowMs :=
      (((run.prepare.call.ctx.now_le_later.trans run.prepare_before_rollback).trans
        run.rollback.call.ctx.now_le_later).trans hrollbackRelease)
    have hreleased:Replayable env key previous run.prepare.call.ctx.nowMs ∅ release.call.ctx.laterMs released :=
      replayable_step hreleaseReliable hrelease hrollbackRelease hreleaseWithin hsince (maxCompletedPerKey_pos env)
        (fun other h=>absurd h (by simp [completedBy,hreleaseOp])) hreplayable
    have hremembers:=hreleased.2.retainCompleted (hreleased.1.2 key) hwithin (maxCompletedPerKey_pos env)
    rw [← current_completed] at hremembers
    obtain ⟨entry,hentry,hfingerprint,-⟩:=hremembers.exists_mem
    exact completed_not_admitted hclaimReliable hreleased.1.1 hclaim hclaimOp
      (isCompleted_iff.mpr ⟨entry,hentry,hfingerprint⟩) hallowed

/-- A dispatched stage is prepared onwards, rolled back, cleared and asked for
again. -/
def undoneOps : ℕ → LedgerOp
 | 0=>.claim "turn" 1 "a"
 | 1=>.markDispatchedIfOwner "turn" 1 "a"
 | 2=>.prepareStageIfOwner "turn" "a" 1 2
 | 3=>.rollbackStageIfOwner "turn" "a" 2 1
 | 4=>.clearIfOwner "turn" 1 "a"
 | _=>.claim "turn" 1 "b"

def undoneCalls (n:ℕ) : LedgerCall := ⟨undoneOps n,calmContext "proxy" 0 (Nat.zero_le _)⟩

def undoneRun : RollbackRun defaultEnv "turn" "a" 1 2 where
 past := (List.range' 0 2).map (eventAt defaultEnv undoneCalls)
 start := dirAfter defaultEnv undoneCalls 2
 prepared := dirAfter defaultEnv undoneCalls 3
 rolledBack := dirAfter defaultEnv undoneCalls 4
 prepare := eventAt defaultEnv undoneCalls 2
 rollback := eventAt defaultEnv undoneCalls 3
 stage := freshStage defaultEnv "proxy" 0 1 "a" .dispatched
 reached := trace_at defaultEnv undoneCalls 0 2
 prepareStep := step_at defaultEnv undoneCalls 2
 rollbackStep := step_at defaultEnv undoneCalls 3
 prepareOp := rfl
 rollbackOp := rfl
 prepareReply := by decide
 rollbackReply := by decide
 dispatched := by decide
 reliable:=by
  intro event hevent
  obtain ⟨n,-,rfl⟩:=List.mem_map.mp (show event∈(List.range' 0 4).map (eventAt defaultEnv undoneCalls) from hevent)
  exact calm_reliable _
 ordered:=by
  change ClockOrdered ((List.range' 0 4).map (eventAt defaultEnv undoneCalls))
  exact List.pairwise_map.mpr (List.pairwise_of_forall fun _ _=>le_refl 0)

theorem rollback_restores_iff_undone :
    ¬(∀ fingerprint,classify (undoneRun.after (calmContext "proxy" 0 (by decide))) fingerprint =
        classify undoneRun.before fingerprint) ∧
      (eventAt defaultEnv undoneCalls 5).reply ≠ .admission .allowed:=by
  have hrestores:=rollback_restores_iff undoneRun
  constructor
  · rw [hrestores.1 (calmContext "proxy" 0 (by decide))
      ⟨le_refl 0,by decide +kernel,by decide,by decide⟩]
    decide +kernel
  · exact hrestores.2 (eventAt defaultEnv undoneCalls 4) _ (eventAt defaultEnv undoneCalls 5) _ "b"
      (step_at defaultEnv undoneCalls 4) (step_at defaultEnv undoneCalls 5)
      (List.pairwise_map.mpr (List.pairwise_of_forall fun _ _=>le_refl 0) :
        ClockOrdered ((List.range' 3 3).map (eventAt defaultEnv undoneCalls)))
      (calm_reliable _) (calm_reliable _) rfl (by decide +kernel) rfl (by decide)

/-- The verdict on the stage changes from ambiguous to completed, and cleared it
is refused as a duplicate though it never completed. -/
theorem rollback_keeps_completion :
    classify undoneRun.before 1 = .ambiguous "Cursor operation was dispatched and has no durable terminal outcome" ∧
      classify (undoneRun.after (calmContext "proxy" 0 (by decide))) 1=.duplicateCompleted ∧
      (eventAt defaultEnv undoneCalls 4).reply=.applied (.ok true) ∧
      (eventAt defaultEnv undoneCalls 5).reply=.admission .duplicateCompleted:=by
  decide +kernel

end CursorProxy.LedgerRollback
