import CursorProxy.LedgerTransitions
import CursorProxy.BoundedHistory

namespace CursorProxy.LedgerHistory
open LedgerModel LedgerRecords LedgerTransitions Traces BoundedHistory

variable {env:LedgerEnv} {ctx:CallContext} {dir dir':LedgerDir} {event:LedgerEvent} {key:String}

theorem maxCompletedPerKey_pos (env:LedgerEnv) : 0<env.maxCompletedPerKey:=by
 have hpositive:0<envPositive env.completedPerKey defaultMaxCompletedPerKey:=by
  unfold envPositive
  cases hraw:env.completedPerKey with
  | none=>decide
  | some n=>
   by_cases hn:0<n
   · simp [Option.filter,hn]
   · simp [Option.filter,hn,defaultMaxCompletedPerKey]
 exact lt_min hpositive (by decide)

theorem dedupFingerprints_sublist (seen:List UInt64) (entries:List CompletedOperation) :
 (dedupFingerprints seen entries).Sublist entries:=by
 induction entries generalizing seen with
 | nil=>exact .slnil
 | cons entry entries ih=>
  unfold dedupFingerprints
  split_ifs
  · exact (ih seen).cons entry
  · exact (ih _).cons_cons entry

theorem dedupFingerprints_eq_self {seen:List UInt64} {entries:List CompletedOperation}
 (hdistinct:(entries.map CompletedOperation.fingerprint).Nodup) (hunseen:∀ entry∈entries,entry.fingerprint ∉ seen) :
 dedupFingerprints seen entries=entries:=by
 induction entries generalizing seen with
 | nil=>rfl
 | cons entry entries ih=>
  rw [List.map_cons,List.nodup_cons] at hdistinct
  unfold dedupFingerprints
  rw [if_neg (hunseen entry List.mem_cons_self),ih hdistinct.2]
  intro other hother hmem
  rcases List.mem_cons.mp hmem with hsame | hseen
  · exact hdistinct.1 (hsame ▸ List.mem_map_of_mem hother)
  · exact hunseen other (List.mem_cons_of_mem _ hother) hseen

/-- A history as the ledger keeps it, for the fingerprints and completion times. -/
abbrev Histories (now:ℕ) (completed:List CompletedOperation) : Prop :=
 Chronicle CompletedOperation.fingerprint CompletedOperation.completedAtMs now completed

/-- The fingerprint is in the history, stamped at `since` or after, and only
`newer` fingerprints came after it. -/
abbrev Remembers (fingerprint:UInt64) (since:ℕ) (newer:Finset UInt64) (completed:List CompletedOperation) : Prop :=
 Retained CompletedOperation.fingerprint CompletedOperation.completedAtMs fingerprint since newer completed

variable {now nowMs since:ℕ} {completed:List CompletedOperation} {fingerprint other:UInt64} {newer:Finset UInt64}

theorem isCompleted_iff {payload:RecordPayload} :
 isCompleted payload fingerprint=true ↔ ∃ entry∈payload.completed,entry.fingerprint=fingerprint:=by
 simp [isCompleted]

theorem retainCompleted_sublist (env:LedgerEnv) (nowMs:ℕ) (completed:List CompletedOperation) :
 (retainCompleted env nowMs completed).Sublist completed:=by
 refine (List.drop_sublist _ _).trans ((dedupFingerprints_sublist _ _).trans ?_)
 exact List.filter_sublist

theorem retainCompleted_length (nowMs:ℕ) (completed:List CompletedOperation) :
 (retainCompleted env nowMs completed).length ≤ env.maxCompletedPerKey:=by
 unfold retainCompleted drainExcess
 rw [List.length_drop]
 omega

theorem retainCompleted_distinct_eq (hdistinct:(completed.map CompletedOperation.fingerprint).Nodup) :
 retainCompleted env nowMs completed=drainExcess env.maxCompletedPerKey
  (completed.filter fun entry=>nowMs-env.completedRetentionMs ≤ entry.completedAtMs):=by
 unfold retainCompleted
 dsimp only
 rw [dedupFingerprints_eq_self (hdistinct.sublist (List.filter_sublist.map _))]
 exact fun _ _=>List.not_mem_nil

theorem retainCompleted_eq_self (hdistinct:(completed.map CompletedOperation.fingerprint).Nodup)
 (hfits:completed.length ≤ env.maxCompletedPerKey)
 (hwithin:∀ entry∈completed,nowMs ≤ entry.completedAtMs+env.completedRetentionMs) :
 retainCompleted env nowMs completed=completed:=by
 rw [retainCompleted_distinct_eq hdistinct]
 have hfilter:(completed.filter fun entry=>
  nowMs-env.completedRetentionMs ≤ entry.completedAtMs)=completed :=
  List.filter_eq_self.mpr fun entry hentry=>by
   have h:=hwithin entry hentry
   exact decide_eq_true (by omega)
 rw [hfilter,drainExcess,Nat.sub_eq_zero_of_le hfits,List.drop_zero]

theorem Histories.retainCompleted (h:Histories now completed) (env:LedgerEnv) (nowMs:ℕ) :
 Histories now (retainCompleted env nowMs completed) :=
 h.sublist (retainCompleted_sublist env nowMs completed)

theorem Remembers.retainCompleted (h:Remembers fingerprint since newer completed)
 (hchronicle:Histories now completed) (hwithin:nowMs ≤ since+env.completedRetentionMs)
 (hfew:(newer.erase fingerprint).card<env.maxCompletedPerKey) :
 Remembers fingerprint since newer (retainCompleted env nowMs completed):=by
 rw [retainCompleted_distinct_eq hchronicle.distinct]
 have hfilter:=h.filter (p := fun entry=>nowMs-env.completedRetentionMs ≤ entry.completedAtMs)
  (fun entry _ htime=>decide_eq_true (by omega))
 exact hfilter.drop (hchronicle.sublist List.filter_sublist).distinct hfew

theorem not_mem_filtered (completed:List CompletedOperation) (fingerprint:UInt64) :
 fingerprint ∉ (completed.filter fun entry=>entry.fingerprint≠fingerprint).map
  CompletedOperation.fingerprint:=by
 intro hmem
 obtain ⟨entry,hentry,hsame⟩:=List.mem_map.mp hmem
 simpa [hsame] using (List.mem_filter.mp hentry).2

theorem addCompleted_eq (env:LedgerEnv) (fingerprint:UInt64) (h:Histories now completed) (hnow:now ≤ nowMs) :
 Histories nowMs ((completed.filter fun entry=>entry.fingerprint≠fingerprint) ++
  [⟨fingerprint,nowMs⟩]) ∧
  addCompleted env completed fingerprint nowMs=drainExcess env.maxCompletedPerKey
   ((completed.filter fun entry=>entry.fingerprint≠fingerprint) ++
    [⟨fingerprint,nowMs⟩]):=by
 have hchronicle:Histories nowMs ((completed.filter fun entry=>entry.fingerprint≠fingerprint) ++
  [⟨fingerprint,nowMs⟩]) :=
  (h.sublist List.filter_sublist).append ⟨fingerprint,nowMs⟩ (not_mem_filtered completed fingerprint) hnow
 refine ⟨hchronicle,?_⟩
 exact congrArg (drainExcess env.maxCompletedPerKey) hchronicle.insertionSort

theorem Histories.addCompleted (h:Histories now completed) (hnow:now ≤ nowMs) :
 Histories nowMs (addCompleted env completed fingerprint nowMs):=by
 obtain ⟨hchronicle,heq⟩:=addCompleted_eq env fingerprint h hnow
 rw [heq]
 exact hchronicle.sublist (List.drop_sublist _ _)

theorem remembers_added (h:Histories now completed) (hnow:now ≤ nowMs) (hsince:since ≤ nowMs)
 (hfew:(newer.erase fingerprint).card<env.maxCompletedPerKey) :
 Remembers fingerprint since newer (addCompleted env completed fingerprint nowMs):=by
 obtain ⟨hchronicle,heq⟩:=addCompleted_eq env fingerprint h hnow
 rw [heq]
 have hlast:Remembers fingerprint since newer
  ((completed.filter fun entry=>entry.fingerprint≠fingerprint)++[⟨fingerprint,nowMs⟩]) :=
  Retained.last rfl hsince
 exact hlast.drop hchronicle.distinct hfew

theorem Remembers.addCompleted (h:Remembers fingerprint since newer completed)
 (hchronicle:Histories now completed) (hnow:now ≤ nowMs) (hother:other≠fingerprint)
 (hnewer:other∈newer) (hfew:(newer.erase fingerprint).card<env.maxCompletedPerKey) :
 Remembers fingerprint since newer (addCompleted env completed other nowMs):=by
 obtain ⟨hextended,heq⟩:=addCompleted_eq env other hchronicle hnow
 rw [heq]
 have hfilter:=h.filter (p := fun entry=>entry.fingerprint≠other)
  (fun entry hkey _=>decide_eq_true (hkey ▸ hother.symm))
 have happend:=hfilter.append ⟨other,nowMs⟩ hnewer
 exact happend.drop hextended.distinct hfew

def completedBy (key:String) (event:LedgerEvent) : Option UInt64 :=
 match event.call.op,event.reply with
 | .prepareStageIfOwner operationKey _ previousFingerprint _, .applied (.ok true)=>
  if operationKey=key then some previousFingerprint else none
 | .markCompletedIfOwner operationKey fingerprint _, .applied (.ok true)=>
  if operationKey=key then some fingerprint else none
 | _,_=>none

def completedIn (key:String) (events:List LedgerEvent) : Finset UInt64 :=
 (events.filterMap (completedBy key)).toFinset

/-- The call stamps the fingerprint it completes: it moves the owner on to the
next stage, or it finds the fingerprint not yet in the history. -/
def Stamps (env:LedgerEnv) (key:String) (dir:LedgerDir) (event:LedgerEvent) (fingerprint:UInt64) : Prop :=
 (∃ owner nextFingerprint,event.call.op=.prepareStageIfOwner key owner fingerprint nextFingerprint) ∨
  isCompleted (current env event.call.ctx dir key) fingerprint=false

/-- An unrefused call adds the fingerprint it completed at its clock reading, or
keeps the history; then all it can have completed is what was found there. -/
theorem mutation_history (op:LedgerOp) (payload:RecordPayload) :
 (∃ fingerprint,completedBy op.key ⟨⟨op,ctx⟩,replyOf env ctx op payload⟩=some fingerprint ∧
  (mutationOf env ctx op payload).1.completed = addCompleted env payload.completed fingerprint ctx.nowMs) ∨
  ((mutationOf env ctx op payload).1.completed=payload.completed ∧
   ∀ fingerprint,
    completedBy op.key ⟨⟨op,ctx⟩,replyOf env ctx op payload⟩=some fingerprint →
     isCompleted payload fingerprint=true ∧
      ∀ key owner next,op ≠ .prepareStageIfOwner key owner fingerprint next):=by
 cases op with
 | prepareStageIfOwner key owner previous next=>
  cases hactive:payload.active with
  | none=>
   right
   simp [mutationOf,prepareStage,hactive,completedBy,replyOf]
  | some stage=>
   by_cases hguard:(!stage.heldBy previous owner||decide (stage.state=.prepared))=true
   · right
     simp only [mutationOf,prepareStage,hactive,if_pos hguard,completedBy,replyOf]
     exact ⟨trivial,fun _ h=>absurd h (by simp)⟩
   · left
     refine ⟨previous,?_,?_⟩ <;>
      simp only [completedBy,replyOf,mutationOf,prepareStage,hactive,if_neg hguard,LedgerOp.key,if_true]
 | markCompletedIfOwner key fingerprint owner=>
  by_cases hdone:isCompleted payload fingerprint=true
  · right
    simp only [mutationOf,markCompleted,if_pos hdone,completedBy,replyOf,LedgerOp.key,if_true,Option.some.injEq]
    refine ⟨trivial,?_⟩
    rintro _ rfl
    exact ⟨hdone,fun _ _ _=>LedgerOp.noConfusion⟩
  · by_cases hheld:(payload.active.any fun active=>active.heldBy fingerprint owner)=true
    · left
      refine ⟨fingerprint,?_,?_⟩ <;>
       simp only [completedBy,replyOf,mutationOf,markCompleted,if_neg hdone,if_pos hheld,LedgerOp.key,if_true]
    · right
      simp only [mutationOf,markCompleted,if_neg hdone,if_neg hheld,completedBy,replyOf]
      exact ⟨trivial,fun _ h=>absurd h (by simp)⟩
 | claim=>
  right
  refine ⟨?_,fun _ h=>absurd h (by simp [completedBy])⟩
  simp only [mutationOf]
  split_ifs <;> rfl
 | markDispatchedIfOwner=>
  right
  refine ⟨?_,fun _ h=>absurd h (by simp [completedBy])⟩
  simp only [mutationOf,markDispatched]
  repeat' split
  all_goals rfl
 | transferOwnerIf=>
  right
  refine ⟨?_,fun _ h=>absurd h (by simp [completedBy])⟩
  simp only [mutationOf,transferOwner]
  repeat' split
  all_goals rfl
 | rollbackStageIfOwner=>
  right
  refine ⟨?_,fun _ h=>absurd h (by simp [completedBy])⟩
  simp only [mutationOf,rollbackStage]
  split_ifs <;> rfl
 | markAmbiguousIfOwner=>
  right
  refine ⟨?_,fun _ h=>absurd h (by simp [completedBy])⟩
  simp only [mutationOf,markAmbiguous]
  repeat' split
  all_goals rfl
 | clearIfOwner=>
  right
  refine ⟨?_,fun _ h=>absurd h (by simp [completedBy])⟩
  simp only [mutationOf,clear]
  split_ifs <;> rfl

theorem completedBy_key (h:completedBy key event=some fingerprint) : event.call.op.key=key:=by
 unfold completedBy at h
 split at h
 · rename_i hop hreply
   rw [hop]
   exact (Option.ite_none_right_eq_some.mp h).1
 · rename_i hop hreply
   rw [hop]
   exact (Option.ite_none_right_eq_some.mp h).1
 · exact absurd h (by simp)

theorem completedBy_not_refused (h:completedBy key event=some fingerprint) : ¬refused event.reply:=by
 unfold completedBy at h
 split at h
 · rename_i hop hreply
   rw [hreply]
   exact id
 · rename_i hop hreply
   rw [hreply]
   exact id
 · exact absurd h (by simp)

def KeepsHistories (env:LedgerEnv) (now:ℕ) (dir:LedgerDir) : Prop :=
 WellStored env dir ∧ ∀ key,Histories now (historyOf env dir key)

theorem keepsHistories_empty (env:LedgerEnv) (now:ℕ) : KeepsHistories env now .empty :=
 ⟨wellStored_empty env,fun _=>.nil⟩

theorem keepsHistories_step (hreliable:Reliable env event.call.ctx)
 (hstep:LedgerStep env dir event dir') (hnow:now ≤ event.call.ctx.nowMs)
 (h:KeepsHistories env now dir) : KeepsHistories env event.call.ctx.laterMs dir':=by
 refine ⟨hstep.wellStored hreliable h.1,fun key=>?_⟩
 have hlater:=hnow.trans event.call.ctx.now_le_later
 cases hstep.keyEffect hreliable h.1 key with
 | kept hslot _=>
  rw [historyOf_congr hslot]
  exact (h.2 key).mono hlater
 | swept _ hslot _ _ _=>
  unfold historyOf
  rw [hslot]
  exact .nil
 | applied hkey hreply hactive hhistory=>
  have hcurrent:=(h.2 key).retainCompleted env event.call.ctx.nowMs
  rw [← current_completed] at hcurrent
  rw [hhistory]
  rcases mutation_history event.call.op (current env event.call.ctx dir key) with
   ⟨_,-,hadded⟩ | ⟨hsame,-⟩
  · rw [hadded]
    exact (hcurrent.addCompleted hnow).mono event.call.ctx.now_le_later
  · rw [hsame]
    exact hcurrent.mono hlater

def clockAfter (now:ℕ) (events:List LedgerEvent) : ℕ :=
 events.foldl (fun _ event=>event.call.ctx.laterMs) now

theorem clockAfter_le {events:List LedgerEvent} {bound:ℕ} (hnow:now ≤ bound)
 (hevents:∀ event∈events,event.call.ctx.laterMs ≤ bound) : clockAfter now events ≤ bound:=by
 induction events generalizing now with
 | nil=>exact hnow
 | cons event events ih=>
  exact ih (hevents event List.mem_cons_self) (fun other hother=>hevents other (List.mem_cons_of_mem _ hother))

theorem clocked_run {events:List LedgerEvent} (Inv:ℕ → LedgerDir → Prop)
 (hrun:Trace (LedgerStep env) dir events dir') (hordered:ClockOrdered events)
 (hstart:∀ event∈events,now ≤ event.call.ctx.nowMs)
 (hstep:∀ now dir event dir',event∈events → now ≤ event.call.ctx.nowMs → Inv now dir →
  LedgerStep env dir event dir' → Inv event.call.ctx.laterMs dir')
 (h:Inv now dir) : Inv (clockAfter now events) dir':=by
 induction hrun generalizing now with
 | nil _=>exact h
 | @cons s u t event events head _ ih=>
  obtain ⟨hfirst,hrest⟩:=List.pairwise_cons.mp hordered
  refine ih hrest (fun other hother=>hfirst other hother) ?_ ?_
  · exact fun now dir other dir' hother=>hstep now dir other dir' (List.mem_cons_of_mem _ hother)
  · exact hstep now _ event _ List.mem_cons_self (hstart event List.mem_cons_self) h head

end CursorProxy.LedgerHistory
