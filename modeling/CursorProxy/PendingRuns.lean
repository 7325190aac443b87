import CursorProxy.PendingExecs
import CursorProxy.Traces

namespace CursorProxy.PendingRuns
open XmlElements PendingExecs Traces

/-- `held` are the natives that `drain_collecting_natives` has handed out and that have not come
back; `finished` those that are completed, aborted or drained for good. -/
structure PendingRun where
 state : PendingExecState
 accepted : Multiset PendingCursorExec
 exposed : Multiset PendingCursorExec
 held : Multiset PendingCursorExec
 finished : Multiset PendingCursorExec

inductive PendingAction where
 | queue (exec:PendingCursorExec) (now quiet:ℕ)
 | expose
 | exposeNative (now:ℕ)
 | markExposedAt (now:ℕ)
 | configureResumeAdmission (admission:ResumeAdmission) (toolTtl:ℕ)
 | completeAwaiting (now:ℕ)
 | abortNativeById (id:UInt32) (now:ℕ)
 | drainNatives
 | drainCollectingNatives
 | restoreCollectingNatives (natives:List PendingCursorExec) (now:ℕ)

namespace PendingRun

def start (runId:Text) : PendingRun := ⟨.forRun runId,0,0,0,0⟩

def aborted (state:PendingExecState) (id:UInt32) : List PendingCursorExec :=
 (state.awaiting++state.collecting).filter (PendingExecState.abortMatches id)

/-- Only what `drain_collecting_natives` has handed out is restored. -/
def step (run:PendingRun) : PendingAction → Option PendingRun
 | .queue exec now quiet=>
  some { run with
   state := (run.state.queue exec now quiet).1
   accepted := if (run.state.queue exec now quiet).2 then
    run.state.admitted exec ::ₘ run.accepted else run.accepted }
 | .expose=>
  some { run with
   state := run.state.expose.1,exposed := run.exposed+run.state.expose.2 }
 | .exposeNative now=>
  some { run with
   state := (run.state.exposeNative now).1
   exposed := run.exposed+(run.state.exposeNative now).2 }
 | .markExposedAt now=>some { run with state := run.state.markExposedAt now }
 | .configureResumeAdmission admission toolTtl=>
  some { run with state := run.state.configureResumeAdmission admission toolTtl }
 | .completeAwaiting now=>
  some { run with
   state := run.state.completeAwaiting now
   finished := run.finished+run.state.awaiting }
 | .abortNativeById id now=>
  some { run with
   state := (run.state.abortNativeById id now).1
   finished := run.finished+aborted run.state id }
 | .drainNatives=>
  some { run with
   state := run.state.drainNatives.1,finished := run.finished+run.state.drainNatives.2 }
 | .drainCollectingNatives=>
  some { run with
   state := run.state.drainCollectingNatives.1
   held := run.held+run.state.drainCollectingNatives.2 }
 | .restoreCollectingNatives natives now=>
  if (natives:Multiset PendingCursorExec) ≤ run.held then
   some { run with
    state := run.state.restoreCollectingNatives natives now
    held := run.held-natives }
  else none

end PendingRun

def Step (run:PendingRun) (action:PendingAction) (run':PendingRun) : Prop :=
 run.step action=some run'

variable {run run':PendingRun} {action:PendingAction}

/-- Each accepted exec is in one place, and no two have the same id. -/
structure Kept (run:PendingRun) : Prop where
 places : run.accepted=run.state.awaiting+run.state.collecting+run.held+run.finished
 unexposed : run.exposed+run.state.collecting+run.held ≤ run.accepted
 ids : (run.accepted.map PendingCursorExec.toolUseId).Nodup
 emitted : ∀ exec∈run.accepted,exec.toolUseId∈run.state.emittedToolUseIds
 natives : ∀ exec∈run.held,isNative exec=true

theorem Kept.start (runId:Text) : Kept (.start runId) :=
 ⟨rfl,le_rfl,by simp [PendingRun.start],by simp [PendingRun.start],
  by simp [PendingRun.start]⟩

theorem Kept.moved (h:Kept run)
  (hplaces:(run'.state.awaiting+run'.state.collecting+run'.held+run'.finished :
   Multiset PendingCursorExec) = run.state.awaiting+run.state.collecting+run.held+run.finished)
  (hunexposed:(run'.exposed+run'.state.collecting+run'.held :
   Multiset PendingCursorExec) ≤ run.exposed+run.state.collecting+run.held) (haccepted:run'.accepted=run.accepted)
  (hemitted:run'.state.emittedToolUseIds=run.state.emittedToolUseIds)
  (hnatives:∀ exec∈run'.held,isNative exec=true) : Kept run':=by
 refine ⟨?_,?_,?_,?_,hnatives⟩
 · rw [haccepted,hplaces]
   exact h.places
 · rw [haccepted]
   exact hunexposed.trans h.unexposed
 · rw [haccepted]
   exact h.ids
 · rw [haccepted,hemitted]
   exact h.emitted

theorem filter_add_not (pick:PendingCursorExec → Bool) (execs:List PendingCursorExec) :
  ((execs.filter pick : List PendingCursorExec) : Multiset PendingCursorExec) +
   (execs.filter (fun exec=>!pick exec) : List PendingCursorExec)=execs :=
 (Multiset.coe_add _ _).trans (Multiset.coe_eq_coe.mpr (List.filter_append_perm pick execs))

theorem filter_le (pick:PendingCursorExec → Bool) (execs:List PendingCursorExec) :
  ((execs.filter pick : List PendingCursorExec) : Multiset PendingCursorExec) ≤ execs :=
 Multiset.coe_le.mpr List.filter_sublist.subperm

/-- What exposing a batch does: it moves from the collected execs to the awaited ones. -/
structure Moves (state state':PendingExecState) (out:List PendingCursorExec) : Prop where
 kept : (state'.awaiting+state'.collecting : Multiset PendingCursorExec) = state.awaiting+state.collecting
 shown : (out+state'.collecting : Multiset PendingCursorExec)=state.collecting
 emitted : state'.emittedToolUseIds=state.emittedToolUseIds

theorem Moves.same (state:PendingExecState) : Moves state state [] :=
 ⟨rfl,Multiset.zero_add _,rfl⟩

theorem canExpose_awaiting {state:PendingExecState} (h:state.canExpose=true) : state.awaiting=[] :=
 List.isEmpty_iff.mp (Bool.and_eq_true_iff.mp h).1

theorem expose_moves (state:PendingExecState) : Moves state state.expose.1 state.expose.2:=by
 have hsplit:=filter_add_not isClientOnly state.collecting
 unfold PendingExecState.expose
 cases hcan:state.canExpose with
 | false=>exact Moves.same state
 | true=>
  have hawaiting:=canExpose_awaiting hcan
  rw [if_neg (by decide)]
  split_ifs
  · refine ⟨?_,hsplit,rfl⟩
    rw [hawaiting]
    exact hsplit.trans (Multiset.zero_add _).symm
  · refine ⟨?_,Multiset.add_zero _,rfl⟩
    rw [hawaiting]
    exact Multiset.add_comm _ _

theorem exposeNative_moves (state:PendingExecState) (now:ℕ) :
  Moves state (state.exposeNative now).1 (state.exposeNative now).2:=by
 have hsplit:=(Multiset.add_comm _ _).trans (filter_add_not isClientOnly state.collecting)
 unfold PendingExecState.exposeNative
 cases hcan:state.canExpose with
 | false=>exact Moves.same state
 | true=>
  have hawaiting:=canExpose_awaiting hcan
  rw [if_neg (by decide)]
  dsimp only
  split
  · rename_i hnone
    have hnative:state.collecting.filter (fun exec=>!isClientOnly exec)=[] :=
     List.isEmpty_iff.mp hnone
    rw [hnative] at hsplit
    refine ⟨?_,hsplit,rfl⟩
    rw [hawaiting]
    exact hsplit.trans (Multiset.zero_add _).symm
  · refine ⟨?_,hsplit,rfl⟩
    rw [hawaiting]
    exact hsplit.trans (Multiset.zero_add _).symm

theorem Kept.exposes (h:Kept run) {state:PendingExecState} {out:List PendingCursorExec}
  (hmoves:Moves run.state state out) : Kept { run with state := state,exposed := run.exposed+out }:=by
 refine h.moved ?_ ?_ rfl hmoves.emitted h.natives
 · dsimp only
   rw [hmoves.kept]
 · dsimp only
   rw [← hmoves.shown]
   exact le_of_eq (by abel)

theorem Kept.queue (h:Kept run) (exec:PendingCursorExec) (now quiet:ℕ)
  (hstep:Step run (.queue exec now quiet) run') : Kept run':=by
 obtain rfl:=Option.some.inj hstep
 by_cases hseen:(exec.id,discriminator exec)∈run.state.seenExecs
 · have hqueue:run.state.queue exec now quiet=(run.state,false):=if_pos hseen
   rw [hqueue]
   exact h
 · have hqueue:run.state.queue exec now quiet=(_,true):=if_neg hseen
   rw [hqueue]
   have hfresh:(run.state.admitted exec).toolUseId ∉ run.state.emittedToolUseIds :=
    disambiguate_fresh _ _ _
   have hcollecting:((run.state.collecting++[run.state.admitted exec] :
     List PendingCursorExec) : Multiset PendingCursorExec) = run.state.collecting + {run.state.admitted exec} := rfl
   refine ⟨?_,?_,?_,?_,h.natives⟩
   · dsimp only
     rw [if_pos rfl,h.places,hcollecting,← Multiset.singleton_add]
     abel
   · dsimp only
     rw [if_pos rfl,hcollecting,← Multiset.singleton_add]
     refine (le_of_eq ?_).trans (add_le_add (le_refl {run.state.admitted exec}) h.unexposed)
     abel
   · dsimp only
     rw [if_pos rfl,Multiset.map_cons,Multiset.nodup_cons]
     refine ⟨fun hmem=>?_,h.ids⟩
     obtain ⟨other,hother,hsame⟩:=Multiset.mem_map.mp hmem
     exact hfresh (hsame ▸ h.emitted other hother)
   · dsimp only
     rw [if_pos rfl]
     intro other hother
     rcases Multiset.mem_cons.mp hother with rfl | hold
     · exact Finset.mem_insert_self _ _
     · exact Finset.mem_insert_of_mem (h.emitted other hold)

theorem Kept.abort (h:Kept run) (id:UInt32) (now:ℕ) (hstep:Step run (.abortNativeById id now) run') : Kept run':=by
 obtain rfl:=Option.some.inj hstep
 refine h.moved ?_ ?_ rfl rfl h.natives
 · have hawaiting:=filter_add_not (PendingExecState.abortMatches id) run.state.awaiting
   have hcollecting:=filter_add_not (PendingExecState.abortMatches id) run.state.collecting
   unfold PendingRun.aborted PendingExecState.abortNativeById
   dsimp only
   rw [List.filter_append,← Multiset.coe_add,← hawaiting,← hcollecting]
   abel
 · exact add_le_add (add_le_add le_rfl (filter_le _ _)) le_rfl

theorem Kept.drainNatives (h:Kept run) (hstep:Step run .drainNatives run') : Kept run':=by
 obtain rfl:=Option.some.inj hstep
 refine h.moved ?_ ?_ rfl rfl h.natives
 · have hawaiting:=filter_add_not isClientOnly run.state.awaiting
   have hcollecting:=filter_add_not isClientOnly run.state.collecting
   unfold PendingExecState.drainNatives PendingExecState.keepClientCollecting
   dsimp only
   rw [← Multiset.coe_add,← hawaiting,← hcollecting]
   unfold isNative
   abel
 · exact add_le_add (add_le_add le_rfl (filter_le _ _)) le_rfl

theorem Kept.drainCollectingNatives (h:Kept run) (hstep:Step run .drainCollectingNatives run') : Kept run':=by
 obtain rfl:=Option.some.inj hstep
 have hcollecting:=filter_add_not isClientOnly run.state.collecting
 refine h.moved ?_ (le_of_eq ?_) rfl rfl ?_
 · unfold PendingExecState.drainCollectingNatives PendingExecState.keepClientCollecting
   dsimp only
   rw [← hcollecting]
   unfold isNative
   abel
 · unfold PendingExecState.drainCollectingNatives PendingExecState.keepClientCollecting
   dsimp only
   rw [← hcollecting]
   unfold isNative
   abel
 · intro exec hexec
   rcases Multiset.mem_add.mp hexec with hheld | hdrained
   · exact h.natives exec hheld
   · exact (List.mem_filter.mp (Multiset.mem_coe.mp hdrained)).2

theorem Kept.restore (h:Kept run) (natives:List PendingCursorExec) (now:ℕ)
  (hstep:Step run (.restoreCollectingNatives natives now) run') : Kept run':=by
 unfold Step PendingRun.step at hstep
 dsimp only at hstep
 split_ifs at hstep with hheld
 obtain rfl:=Option.some.inj hstep
 obtain ⟨rest,hrest⟩:=Multiset.le_iff_exists_add.mp hheld
 have hleft:run.held-natives=rest:=by rw [hrest,add_tsub_cancel_left]
 have hcollecting:((run.state.restoreCollectingNatives natives now).collecting :
   Multiset PendingCursorExec)=run.state.collecting+natives:=by
  unfold PendingExecState.restoreCollectingNatives
  split
  · rename_i hempty
    rw [List.isEmpty_iff.mp hempty]
    exact (Multiset.add_zero _).symm
  · rfl
 have hothers:(run.state.restoreCollectingNatives natives now).awaiting=run.state.awaiting ∧
   (run.state.restoreCollectingNatives natives now).emittedToolUseIds = run.state.emittedToolUseIds:=by
  unfold PendingExecState.restoreCollectingNatives
  split_ifs <;> exact ⟨rfl,rfl⟩
 refine h.moved ?_ (le_of_eq ?_) rfl hothers.2 ?_
 · dsimp only
   rw [hothers.1,hcollecting,hleft,hrest]
   abel
 · dsimp only
   rw [hcollecting,hleft,hrest]
   abel
 · intro exec hexec
   exact h.natives exec (Multiset.mem_of_le (Multiset.sub_le_self _ _) hexec)

theorem step_kept (h:Kept run) (hstep:Step run action run') : Kept run':=by
 cases action with
 | queue exec now quiet=>exact h.queue exec now quiet hstep
 | expose=>
  obtain rfl:=Option.some.inj hstep
  exact h.exposes (expose_moves run.state)
 | exposeNative now=>
  obtain rfl:=Option.some.inj hstep
  exact h.exposes (exposeNative_moves run.state now)
 | markExposedAt now=>
  obtain rfl:=Option.some.inj hstep
  unfold PendingExecState.markExposedAt
  split_ifs
  · exact h
  · exact ⟨h.places,h.unexposed,h.ids,h.emitted,h.natives⟩
 | configureResumeAdmission admission toolTtl=>
  obtain rfl:=Option.some.inj hstep
  exact ⟨h.places,h.unexposed,h.ids,h.emitted,h.natives⟩
 | completeAwaiting now=>
  obtain rfl:=Option.some.inj hstep
  refine h.moved ?_ le_rfl rfl rfl h.natives
  unfold PendingExecState.completeAwaiting
  dsimp only
  rw [Multiset.coe_nil]
  abel
 | abortNativeById id now=>exact h.abort id now hstep
 | drainNatives=>exact h.drainNatives hstep
 | drainCollectingNatives=>exact h.drainCollectingNatives hstep
 | restoreCollectingNatives natives now=>exact h.restore natives now hstep

theorem run_kept {runId:Text} {actions:List PendingAction} (hrun:Trace Step (.start runId) actions run) : Kept run :=
 hrun.invariant Kept (fun _ _ _ _=>step_kept) (Kept.start runId)

/-- Nothing is awaited and a native is collected, with no deadline to expose it. -/
def Stuck (state:PendingExecState) : Prop :=
 state.awaiting=[] ∧ (∃ exec∈state.collecting,isNative exec=true) ∧ state.nativeCollectDeadline=none

/-- Natives come back while nothing is awaited and no deadline is set. -/
def Strands (run:PendingRun) : PendingAction → Prop
 | .restoreCollectingNatives natives _=>
  natives≠[] ∧ run.state.awaiting=[] ∧ run.state.collectDeadline=none
 | _=>False

theorem stuck_iff {state:PendingExecState} : Stuck state ↔ state.awaiting=[] ∧
  (∃ exec∈state.collecting,isNative exec=true) ∧ state.collectDeadline=none:=by
 refine and_congr_right fun hawaiting=>and_congr_right fun hnative=>?_
 obtain ⟨exec,hexec,hisNative⟩:=hnative
 have hany:state.collecting.any isNative=true:=List.any_eq_true.mpr ⟨exec,hexec,hisNative⟩
 have hcan:state.canExpose=true:=by
  unfold PendingExecState.canExpose
  rw [hawaiting,List.isEmpty_eq_false_iff.mpr (List.ne_nil_of_mem hexec)]
  rfl
 unfold PendingExecState.nativeCollectDeadline
 rw [hcan,hany,if_pos (by decide)]

theorem not_native_of_client {execs:List PendingCursorExec} {exec:PendingCursorExec}
  (hexec:exec∈execs.filter isClientOnly) : isNative exec=false:=by
 unfold isNative
 rw [(List.mem_filter.mp hexec).2]
 rfl

theorem filter_ne_nil {pick:PendingCursorExec → Bool} {execs:List PendingCursorExec}
  (h:execs.any pick=true) : execs.filter pick≠[]:=by
 obtain ⟨exec,hexec,hpick⟩:=List.any_eq_true.mp h
 exact List.ne_nil_of_mem (List.mem_filter.mpr ⟨hexec,hpick⟩)

theorem expose_free {state:PendingExecState} (h:¬Stuck state) : ¬Stuck state.expose.1:=by
 unfold PendingExecState.expose
 split
 · exact h
 · split
   · rename_i hmixed
     exact fun hstuck=>filter_ne_nil (Bool.and_eq_true_iff.mp hmixed).1 hstuck.1
   · rintro ⟨-,⟨exec,hexec,-⟩,-⟩
     exact absurd hexec (by simp)

theorem exposeNative_free {state:PendingExecState} (h:¬Stuck state) (now:ℕ) : ¬Stuck (state.exposeNative now).1:=by
 unfold PendingExecState.exposeNative
 split
 · exact h
 · dsimp only
   split
   · rintro ⟨-,⟨exec,hexec,hnative⟩,-⟩
     rw [not_native_of_client hexec] at hnative
     exact absurd hnative (by decide)
   · rename_i hnone
     exact fun hstuck=>hnone (List.isEmpty_iff.mpr hstuck.1)

theorem completeAwaiting_free (state:PendingExecState) (now:ℕ) : ¬Stuck (state.completeAwaiting now):=by
 intro hstuck
 obtain ⟨-,⟨exec,hexec,-⟩,hdeadline⟩:=stuck_iff.mp hstuck
 have hfull:state.collecting.isEmpty=false :=
  List.isEmpty_eq_false_iff.mpr (List.ne_nil_of_mem hexec)
 unfold PendingExecState.completeAwaiting at hdeadline
 dsimp only at hdeadline
 rw [hfull] at hdeadline
 cases hset:state.collectDeadline with
 | none=>simp [hset] at hdeadline
 | some deadline=>simp [hset] at hdeadline

theorem abort_free (state:PendingExecState) (id:UInt32) (now:ℕ) : ¬Stuck (state.abortNativeById id now).1:=by
 intro hstuck
 obtain ⟨-,⟨exec,hexec,-⟩,hdeadline⟩:=stuck_iff.mp hstuck
 unfold PendingExecState.abortNativeById at hexec hdeadline
 dsimp only at hexec hdeadline
 rw [if_neg (fun h=>List.ne_nil_of_mem hexec (List.isEmpty_iff.mp h))] at hdeadline
 cases hset:state.collectDeadline with
 | none=>simp [hset] at hdeadline
 | some deadline=>simp [hset] at hdeadline

theorem keepClientCollecting_free (state:PendingExecState) (exec:PendingCursorExec)
  (hexec:exec∈state.keepClientCollecting.collecting) : ¬isNative exec=true:=by
 rw [not_native_of_client hexec]
 decide

theorem step_stuck_iff (h:Kept run) (hfree:¬Stuck run.state) (hstep:Step run action run') :
  Stuck run'.state ↔ Strands run action:=by
 cases action with
 | queue exec now quiet=>
  obtain rfl:=Option.some.inj hstep
  refine iff_of_false ?_ id
  by_cases hseen:(exec.id,discriminator exec)∈run.state.seenExecs
  · have hqueue:run.state.queue exec now quiet=(run.state,false):=if_pos hseen
    rw [hqueue]
    exact hfree
  · have hqueue:run.state.queue exec now quiet=(_,true):=if_neg hseen
    rw [hqueue,stuck_iff]
    rintro ⟨-,-,hdeadline⟩
    exact absurd hdeadline (by simp)
 | expose=>
  obtain rfl:=Option.some.inj hstep
  exact iff_of_false (expose_free hfree) id
 | exposeNative now=>
  obtain rfl:=Option.some.inj hstep
  exact iff_of_false (exposeNative_free hfree now) id
 | markExposedAt now=>
  obtain rfl:=Option.some.inj hstep
  refine iff_of_false ?_ id
  unfold PendingExecState.markExposedAt
  split_ifs
  · exact hfree
  · exact fun hstuck=>hfree (stuck_iff.mpr (stuck_iff.mp hstuck))
 | configureResumeAdmission admission toolTtl=>
  obtain rfl:=Option.some.inj hstep
  exact iff_of_false (fun hstuck=>hfree (stuck_iff.mpr (stuck_iff.mp hstuck))) id
 | completeAwaiting now=>
  obtain rfl:=Option.some.inj hstep
  exact iff_of_false (completeAwaiting_free run.state now) id
 | abortNativeById abortId now=>
  obtain rfl:=Option.some.inj hstep
  exact iff_of_false (abort_free run.state abortId now) id
 | drainNatives=>
  obtain rfl:=Option.some.inj hstep
  refine iff_of_false ?_ id
  rintro ⟨-,⟨exec,hexec,hnative⟩,-⟩
  exact keepClientCollecting_free run.state exec hexec hnative
 | drainCollectingNatives=>
  obtain rfl:=Option.some.inj hstep
  refine iff_of_false ?_ id
  rintro ⟨-,⟨exec,hexec,hnative⟩,-⟩
  exact keepClientCollecting_free run.state exec hexec hnative
 | restoreCollectingNatives natives now=>
  unfold Step PendingRun.step at hstep
  dsimp only at hstep
  split_ifs at hstep with hheld
  obtain rfl:=Option.some.inj hstep
  unfold PendingExecState.restoreCollectingNatives
  split
  · rename_i hempty
    exact iff_of_false hfree fun hstrands=>hstrands.1 (List.isEmpty_iff.mp hempty)
  · rename_i hfull
    have hnonempty:natives≠[]:=fun hnil=>hfull (List.isEmpty_iff.mpr hnil)
    rw [stuck_iff]
    constructor
    · rintro ⟨hawaiting,-,hdeadline⟩
      exact ⟨hnonempty,hawaiting,hdeadline⟩
    · rintro ⟨-,hawaiting,hdeadline⟩
      obtain ⟨exec,rest,rfl⟩:=List.exists_cons_of_ne_nil hnonempty
      have hnative:isNative exec=true :=
       h.natives exec (Multiset.mem_of_le hheld (Multiset.mem_coe.mpr List.mem_cons_self))
      exact ⟨hawaiting,⟨exec,List.mem_append_right _ List.mem_cons_self,hnative⟩,hdeadline⟩

/-- Every exec that was accepted is in one place, the ids that were exposed differ, and no native is
stuck: in every state of a run exactly if no restore strands what it brings back. -/
theorem execs_neither_lost_nor_stuck {runId:Text} {actions:List PendingAction}
    (hrun:Trace Step (.start runId) actions run) :
    (∀ before after mid,actions=before++after → Trace Step (.start runId) before mid →
      (mid.accepted=mid.state.awaiting+mid.state.collecting+(mid.held+mid.finished) ∧
        (mid.accepted.map PendingCursorExec.toolUseId).Nodup) ∧
      (mid.exposed.map PendingCursorExec.toolUseId).Nodup ∧ ¬Stuck mid.state) ↔
    ∀ before action after mid,actions=before++action::after →
      Trace Step (.start runId) before mid → ¬Strands mid action:=by
  have hfree:¬Stuck (PendingRun.start runId).state:=by
    rintro ⟨-,⟨exec,hexec,-⟩,-⟩
    exact absurd hexec (by simp [PendingRun.start,PendingExecState.forRun])
  have hstuck:=hrun.avoids_iff Kept (fun mid=>Stuck mid.state) Strands
    (fun _ _ _ _ h h'=>Option.some.inj (h.symm.trans h')) (fun _ _ _=>step_kept)
    (fun _ _ _=>step_stuck_iff) (Kept.start runId) hfree
  rw [← hstuck]
  refine ⟨fun hall before after mid hsplit hmid=>(hall before after mid hsplit hmid).2.2,
    fun hall before after mid hsplit hmid=>?_⟩
  have hkept:=run_kept hmid
  refine ⟨⟨?_,hkept.ids⟩,?_,hall before after mid hsplit hmid⟩
  · rw [hkept.places]
    abel
  · have hexposed:mid.exposed ≤ mid.accepted:=by
      refine le_trans ?_ hkept.unexposed
      rw [add_assoc]
      exact Multiset.le_add_right _ _
    exact Multiset.nodup_of_le (Multiset.map_le_map hexposed) hkept.ids

instance (state:PendingExecState) : Decidable (Stuck state) :=
 inferInstanceAs (Decidable (_ ∧ _ ∧ _))

def readExec : PendingCursorExec := ⟨1,none,['t'],.read⟩

/-- A read is collected, drained for closing, and brought back because the close was not sent. -/
def unsentClose : List PendingAction :=
 [.queue readExec 0 1,.drainCollectingNatives,
  .restoreCollectingNatives [(PendingExecState.forRun ['r']).admitted readExec] 2]

theorem unsentClose_performed : (perform PendingRun.step (.start ['r']) unsentClose).isSome=true:=by
 decide +kernel

/-- The native waits for ever. -/
theorem unsentClose_stuck : ∃ run,Trace Step (.start ['r']) unsentClose run ∧ Stuck run.state :=
  ⟨_,perform_trace (Option.some_get unsentClose_performed).symm,by decide +kernel⟩

/-- The same exchange while the client still owes the result of another read. -/
def awaitedClose : List PendingAction :=
 [.queue readExec 0 1,.expose,.queue { readExec with id := 2 } 2 1,.drainCollectingNatives,
  .restoreCollectingNatives [{ readExec with
   id := 2,toolUseId := candidate (bindGeneration (some ['r']) ['t']) 2 0 }] 3,
  .completeAwaiting 4]

theorem awaitedClose_performed : (perform PendingRun.step (.start ['r']) awaitedClose).isSome=true:=by
 decide +kernel

theorem awaitedClose_neither_lost_nor_stuck :
    ∃ run,perform PendingRun.step (.start ['r']) awaitedClose=some run ∧
      ((∀ before after mid,awaitedClose=before++after → Trace Step (.start ['r']) before mid →
        (mid.accepted=mid.state.awaiting+mid.state.collecting+(mid.held+mid.finished) ∧
          (mid.accepted.map PendingCursorExec.toolUseId).Nodup) ∧
        (mid.exposed.map PendingCursorExec.toolUseId).Nodup ∧ ¬Stuck mid.state) ↔
      ∀ before action after mid,awaitedClose=before++action::after →
        Trace Step (.start ['r']) before mid → ¬Strands mid action):=by
  obtain ⟨run,hrun⟩:=Option.isSome_iff_exists.mp awaitedClose_performed
  exact ⟨run,hrun,execs_neither_lost_nor_stuck (perform_trace hrun)⟩

end CursorProxy.PendingRuns
